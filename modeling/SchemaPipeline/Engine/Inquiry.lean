import SchemaPipeline.Engine.Report

/-!
# Inquiries

A judgment on a value may depend on the verdicts of formats. An inquiry is such a judgment: either
it is done, or it asks a question and goes on with the answer, so what it asks next may depend on
what it was told before.
-/

namespace SchemaPipeline

inductive Inquiry (α : Type) where
  | done (a : α)
  | ask (question : FormatQuery) (next : Bool → Inquiry α)

namespace Inquiry

variable {α β σ : Type}

def bind : Inquiry α → (α → Inquiry β) → Inquiry β
  | .done a, f => f a
  | .ask q next, f => .ask q fun b => (next b).bind f

instance : Monad Inquiry where
  pure := .done
  bind := Inquiry.bind

/-- The question whether a string is in a format. -/
def query (q : FormatQuery) : Inquiry Bool := .ask q .done

/-- The result when every question is answered. -/
def run (answer : FormatQuery → Bool) : Inquiry α → α
  | .done a => a
  | .ask q next => (next (answer q)).run answer

/-- The result when the answers come from a state and leave their mark on it. -/
def runWith (answer : FormatQuery → σ → Bool × σ) : Inquiry α → σ → α × σ
  | .done a, s => (a, s)
  | .ask q next, s =>
    let (b, s) := answer q s
    (next b).runWith answer s

/-- The questions of a run, in their order. -/
def asked (answer : FormatQuery → Bool) : Inquiry α → List FormatQuery
  | .done _ => []
  | .ask q next => q :: (next (answer q)).asked answer

/-- Every question of every run. -/
def questions : Inquiry α → List FormatQuery
  | .done _ => []
  | .ask q next => q :: ((next true).questions ++ (next false).questions)

/-- What holds of the state, and is kept by every answer that can be asked for, holds in the end. -/
theorem runWith_keeps {answer : FormatQuery → σ → Bool × σ} {P : σ → Prop} {i : Inquiry α} {s : σ}
    (hanswer : ∀ q ∈ i.questions, ∀ s, P s → P (answer q s).2) (hs : P s) :
    P (i.runWith answer s).2 := by
  induction i generalizing s with
  | done a => exact hs
  | ask q next ih =>
      refine ih _ (fun p hp s h => ?_) (hanswer q List.mem_cons_self s hs)
      refine hanswer p (List.mem_cons_of_mem _ (List.mem_append.2 ?_)) s h
      cases hb : (answer q _).1 with
      | true => exact .inl (hb ▸ hp)
      | false => exact .inr (hb ▸ hp)

end Inquiry

end SchemaPipeline
