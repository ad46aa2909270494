import Mathlib.Data.List.Nodup
import SchemaPipeline.Engine.Session

/-!
# What a settled inquiry comes to

Settling runs an inquiry on guesses. The early passes may be told wrong answers,
go the wrong way and ask questions which the true run never asks; their results
are thrown away. Three facts make this harmless. A run depends on the answers to
the questions it asks and on no others. The verdicts that are in are those of
the formats. And a pass that keeps its session notes every question that it is
told a guess about (`runWith_kept`). So when such a pass leaves nothing open,
every answer it was given is a verdict, and it is the true run.

A pass that has lost its session notes nothing and is told guesses all the same,
and it is the last one. So all of this stands on formats that announce it when
they wait (`Announced`): only what is checked within a pass can lose a session.
-/

namespace SchemaPipeline

variable {α : Type}

/-! ## Runs -/

/-- A run depends on the answers to its own questions alone. -/
theorem Inquiry.run_congr {answer answer' : FormatQuery → Bool} {i : Inquiry α}
    (h : ∀ q ∈ i.asked answer, answer q = answer' q) :
    i.run answer = i.run answer' := by
  induction i with
  | done a => rfl
  | ask q next ih =>
      have hq : answer q = answer' q := h q List.mem_cons_self
      rw [run, run, ← hq]
      exact ih _ fun p hp => h p (List.mem_cons_of_mem _ hp)

theorem Inquiry.mem_questions_of_mem_asked {answer : FormatQuery → Bool}
    {q : FormatQuery} {i : Inquiry α} (h : q ∈ i.asked answer) :
    q ∈ i.questions := by
  induction i with
  | done a => cases h
  | ask p next ih =>
      rw [questions, List.mem_cons, List.mem_append]
      rcases List.mem_cons.1 h with rfl | hlater
      · exact .inl rfl
      · have hmem := ih _ hlater
        cases hb : answer p with
        | true => exact .inr (.inl (hb ▸ hmem))
        | false => exact .inr (.inr (hb ▸ hmem))

/-! ## Formats that wait -/

/-- A format that is checked within a pass does not wait on the way. -/
def Format.Announced (f : Format) : Prop :=
  f.isAsync = false → ∀ text verdict, f.check text ≠ .awaited verdict

namespace Settings

open FormatSession (Slot)

def Announced (s : Settings) : Prop := ∀ f ∈ s.formats, f.Announced

/-! ## Answers -/

/-- Whether a question goes to an asynchronous format. -/
def asksLater (s : Settings) (q : FormatQuery) : Bool :=
  s.validateFormats && (Format.find? s.formats q.format).any Format.isAsync

/-- The answer to a question if these are the verdicts that are waited for. -/
def told (s : Settings) (verdict : FormatQuery → Bool) (q : FormatQuery) :
    Bool :=
  if s.validateFormats then
    match Format.find? s.formats q.format with
    | some f => if f.isAsync then verdict q else (f.check q.data).now
    | none => true
  else true

/-- The true answer to a question, whether it has to be waited for or not. -/
def truth (s : Settings) : FormatQuery → Bool := s.told s.verdict

/-- The answer that these verdicts give; an open question is taken to be
answered by yes. -/
def assume (verdicts : Verdicts) (q : FormatQuery) : Bool :=
  (verdicts.lookup q).getD true

variable {s : Settings} {verdicts : Verdicts} {session : FormatSession}
  {q : FormatQuery} {i : Inquiry α}

theorem told_congr {verdict verdict' : FormatQuery → Bool}
    (h : s.asksLater q = true → verdict q = verdict' q) :
    s.told verdict q = s.told verdict' q := by
  rw [told, told]
  split
  · next hon =>
      split
      · next f hf =>
          split
          · next hasync => exact h (by simp [asksLater, hon, hf, hasync])
          · rfl
      · rfl
  · rfl

/-- What an answer makes of the session: it is kept, as it was or with a new
question, or else the format has waited. -/
theorem answer_cases (s : Settings) (q : FormatQuery) (session : FormatSession) :
    (s.answer q (some session) =
        (s.told (assume session.verdicts) q, some session) ∧
      (s.asksLater q = true → isOpen session.verdicts q = false)) ∨
    (s.answer q (some session) =
        (s.told (assume session.verdicts) q, some (session.note q)) ∧
      s.asksLater q = true ∧ isOpen session.verdicts q = true) ∨
    ∃ f ∈ s.formats, ∃ verdict, f.isAsync = false ∧
      f.check q.data = .awaited verdict ∧
      s.answer q (some session) = (verdict, none) := by
  by_cases hon : s.validateFormats = true
  · rw [answer, told, asksLater, if_pos hon, if_pos hon, hon]
    cases hf : Format.find? s.formats q.format with
    | none => exact .inl ⟨rfl, fun h => absurd h Bool.false_ne_true⟩
    | some f =>
        dsimp only
        rw [Format.answer, Format.find?_name hf]
        cases hasync : f.isAsync with
        | true =>
            rw [if_pos rfl, if_pos rfl, FormatSession.answer, assume, isOpen]
            cases session.verdicts.lookup q with
            | some verdict => exact .inl ⟨rfl, fun _ => rfl⟩
            | none => exact .inr (.inl ⟨rfl, hasync, rfl⟩)
        | false =>
            have hmem : f ∈ s.formats := List.mem_of_find?_eq_some hf
            rw [if_neg Bool.false_ne_true, if_neg Bool.false_ne_true]
            cases hcheck : f.check q.data with
            | awaited verdict =>
                exact .inr (.inr ⟨f, hmem, verdict, hasync, hcheck, rfl⟩)
            | _ => exact .inl ⟨rfl, fun h => absurd h (by simp [hasync])⟩
  · rw [answer, told, asksLater, if_neg hon, if_neg hon]
    exact .inl ⟨rfl, by simp [hon]⟩

/-- Without a session every question that should be waited for is answered by
yes. -/
theorem answer_none (s : Settings) (q : FormatQuery) :
    s.answer q none = (s.told (fun _ => true) q, none) := by
  rw [answer, told]
  split
  · cases hf : Format.find? s.formats q.format with
    | none => rfl
    | some f =>
        dsimp only
        rw [Format.answer]
        cases hasync : f.isAsync with
        | true => rfl
        | false => cases f.check q.data <;> rfl
  · rfl

/-! ## Passes -/

theorem runWith_none (i : Inquiry α) :
    i.runWith s.answer none = (i.run (s.told fun _ => true), none) := by
  induction i with
  | done a => rfl
  | ask q next ih =>
      rw [Inquiry.runWith, answer_none]
      exact ih _

/-- The session after the inquiry is that before it with the questions that
have been left open. -/
structure Kept (s : Settings) (i : Inquiry α) (before after : FormatSession) :
    Prop where
  verdicts : after.verdicts = before.verdicts
  pending : ∀ q, q ∈ after.pending ↔ q ∈ before.pending ∨
    q ∈ i.asked (s.told (assume before.verdicts)) ∧ s.asksLater q = true ∧
      isOpen before.verdicts q = true
  nodup : before.pending.Nodup → after.pending.Nodup

/-- A pass that keeps its session is a run on what the session has verdicts for
and on guesses, and it notes each question it was told a guess about. -/
theorem runWith_kept {after : FormatSession}
    (h : (i.runWith s.answer (some session)).2 = some after) :
    (i.runWith s.answer (some session)).1 =
        i.run (s.told (assume session.verdicts)) ∧ s.Kept i session after := by
  induction i generalizing session with
  | done a =>
      cases h
      exact ⟨rfl, rfl, fun q => by simp [Inquiry.asked], id⟩
  | ask q next ih =>
      rw [Inquiry.runWith] at h ⊢
      rcases s.answer_cases q session with
        ⟨heq, hclosed⟩ | ⟨heq, hlater, hopen⟩ | ⟨f, -, verdict, -, -, heq⟩
      · rw [heq] at h ⊢
        obtain ⟨hrun, hkept⟩ := ih _ h
        refine ⟨hrun, hkept.verdicts, fun p => ?_, hkept.nodup⟩
        rw [hkept.pending, Inquiry.asked, List.mem_cons]
        refine or_congr_right ⟨fun hp => ⟨.inr hp.1, hp.2⟩, ?_⟩
        rintro ⟨rfl | hp, hpl, hpo⟩
        · rw [hclosed hpl] at hpo
          cases hpo
        · exact ⟨hp, hpl, hpo⟩
      · rw [heq] at h ⊢
        obtain ⟨hrun, hkept⟩ := ih _ h
        refine ⟨hrun, hkept.verdicts, fun p => ?_,
          fun hnodup => hkept.nodup (nodup_addNew q hnodup)⟩
        rw [hkept.pending, FormatSession.note, mem_addNew, Inquiry.asked,
          List.mem_cons, or_assoc]
        refine or_congr_right ?_
        constructor
        · rintro (rfl | ⟨hp, hpl, hpo⟩)
          · exact ⟨.inl rfl, hlater, hopen⟩
          · exact ⟨.inr hp, hpl, hpo⟩
        · rintro ⟨rfl | hp, hpl, hpo⟩
          · exact .inl rfl
          · exact .inr ⟨hp, hpl, hpo⟩
      · rw [heq] at h
        dsimp only at h
        rw [runWith_none] at h
        cases h

/-- Where no format waits without saying so, no session is lost. -/
theorem exists_kept (hs : s.Announced) (i : Inquiry α)
    (session : FormatSession) :
    ∃ after, (i.runWith s.answer (some session)).2 = some after := by
  rw [← Option.isSome_iff_exists]
  refine Inquiry.runWith_keeps (P := fun slot : Slot => slot.isSome = true)
    (fun q _ slot hslot => ?_) rfl
  obtain ⟨session, rfl⟩ := Option.isSome_iff_exists.1 hslot
  rcases s.answer_cases q session with
    ⟨heq, -⟩ | ⟨heq, -⟩ | ⟨f, hf, verdict, hsync, hcheck, -⟩
  · rw [heq]
    rfl
  · rw [heq]
    rfl
  · exact absurd hcheck (hs f hf hsync q.data verdict)

/-! ## Verdicts -/

/-- The verdicts that are in are those of the formats. -/
def Faithful (s : Settings) (verdicts : Verdicts) : Prop :=
  ∀ q verdict, verdicts.lookup q = some verdict → verdict = s.verdict q

theorem faithful_nil (s : Settings) : s.Faithful [] := nofun

theorem lookup_map_verdict {verdict : Bool} : ∀ {qs : List FormatQuery},
    (qs.map fun q => (q, s.verdict q)).lookup q = some verdict →
      verdict = s.verdict q
  | [], h => by cases h
  | p :: rest, h => by
      rw [List.map_cons, List.lookup_cons] at h
      split at h
      · next hp =>
          rw [eq_of_beq hp]
          exact (Option.some.inj h).symm
      · exact lookup_map_verdict h

theorem Faithful.resolve (h : s.Faithful session.verdicts) :
    s.Faithful (s.resolve session) := by
  intro q verdict hverdict
  rw [Settings.resolve, List.lookup_append, Option.or_eq_some_iff] at hverdict
  rcases hverdict with hold | ⟨-, hnew⟩
  · exact h q verdict hold
  · exact lookup_map_verdict hnew

/-- A run that meets no open question is the true run. -/
theorem run_assume (h : s.Faithful verdicts)
    (hopen : ∀ q ∈ i.asked (s.told (assume verdicts)), s.asksLater q = true →
      isOpen verdicts q = false) :
    i.run (s.told (assume verdicts)) = i.run s.truth := by
  refine Inquiry.run_congr fun q hq => told_congr fun hlater => ?_
  have hclosed := hopen q hq hlater
  rw [isOpen, Option.isNone_eq_false_iff, Option.isSome_iff_exists] at hclosed
  obtain ⟨verdict, hverdict⟩ := hclosed
  rw [assume, hverdict]
  exact h q verdict hverdict

/-! ## Settling -/

/-- The last pass of an inquiry has lost its session, and what it comes to is
the result. -/
def Loses (s : Settings) (i : Inquiry α) (result : α) : Prop :=
  ∃ verdicts, s.Faithful verdicts ∧
    i.runWith s.answer (some ⟨verdicts, []⟩) = (result, none)

theorem pass_eq (i : Inquiry α) (verdicts : Verdicts) :
    s.pass i verdicts =
      ((i.runWith s.answer (some ⟨verdicts, []⟩)).2.getD .empty,
        (i.runWith s.answer (some ⟨verdicts, []⟩)).1) := rfl

/-- Whatever the early passes were told, an inquiry settles on the result of
the run in which every question has its true answer, or the pass that counts
has lost its session. -/
theorem settleFrom_result (h : s.Faithful verdicts) :
    (s.settleFrom i verdicts).result = i.run s.truth ∨
      s.Loses i (s.settleFrom i verdicts).result := by
  induction verdicts using settleFrom.induct s i with
  | case1 verdicts hnone =>
      rw [settleFrom, dif_pos hnone]
      rw [pass_eq] at hnone ⊢
      cases hslot : (i.runWith s.answer (some ⟨verdicts, []⟩)).2 with
      | none => exact .inr ⟨verdicts, h, Prod.ext rfl hslot⟩
      | some after =>
          obtain ⟨hrun, hkept⟩ := runWith_kept hslot
          rw [hslot] at hnone
          refine .inl (hrun.trans (run_assume h fun q hq hlater => ?_))
          rw [← Bool.not_eq_true]
          intro hopen
          have hmem := (hkept.pending q).2 (.inr ⟨hq, hlater, hopen⟩)
          rw [show after.pending = [] from hnone] at hmem
          cases hmem
  | case2 verdicts hsome _ ih =>
      rw [settleFrom, dif_neg hsome]
      have hsame : (s.pass i verdicts).1.verdicts = verdicts :=
        (follows_of_pending hsome).same
      exact ih (Faithful.resolve (hsame.symm ▸ h))

theorem settle_cases (s : Settings) (i : Inquiry α) :
    (s.settle i).result = i.run s.truth ∨ s.Loses i (s.settle i).result :=
  settleFrom_result s.faithful_nil

/-- A pass that has lost its session is the last one. -/
theorem settleFrom_of_lost
    (h : (i.runWith s.answer (some ⟨verdicts, []⟩)).2 = none) :
    s.settleFrom i verdicts =
      ⟨(i.runWith s.answer (some ⟨verdicts, []⟩)).1, [], 1⟩ := by
  have hnone : (s.pass i verdicts).1.pending = [] := by
    rw [pass_eq, h]
    rfl
  rw [settleFrom, dif_pos hnone, pass_eq]

/-- A format that waits without saying so can keep another one from being
asked, so that a text which is not in its format is accepted. -/
theorem exists_lost :
    ∃ (s : Settings) (i : Inquiry Bool), (s.settle i).result ≠ i.run s.truth := by
  let waits : Format := ⟨"waits", false, fun _ => .awaited true⟩
  let refuses : Format := ⟨"refuses", true, fun _ => .pending false⟩
  refine ⟨⟨none, true, [waits, refuses]⟩,
    .ask ⟨"waits", ""⟩ fun _ => .query ⟨"refuses", ""⟩, ?_⟩
  rw [settle, settleFrom_of_lost rfl]
  decide

theorem not_loses (hs : s.Announced) (result : α) : ¬ s.Loses i result := by
  rintro ⟨verdicts, -, hlost⟩
  obtain ⟨after, hafter⟩ := exists_kept hs i ⟨verdicts, []⟩
  rw [hlost] at hafter
  cases hafter

end Settings

end SchemaPipeline
