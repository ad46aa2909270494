import SchemaPipeline.Engine.Inquiry
import SchemaPipeline.Engine.Settings
import SchemaPipeline.Fresh

/-!
# Sessions

An asynchronous format cannot be asked while the engine is in the middle of a pass. What is known of
its verdicts is kept in a session, and for the length of the pass the session lies in a slot of the
thread. There the format looks for its verdicts and leaves the questions that have none yet, which
count as answered by yes for the time being. After the pass the open questions are put to their
formats, the verdicts are noted, and the next pass begins. The pass that leaves no question open is
the one that counts.

A thread has one slot. A check that waits in the middle of a pass, for a validation that has a
session too, gives the slot away and finds it empty in the end, which is why nothing should wait
within a pass. In what is left of such a pass every asynchronous format accepts, and there is no
session to note a question in.

Each pass but the last closes a question that the inquiry can ask, and it can ask only finitely
many, so the passes come to an end.
-/

namespace SchemaPipeline

abbrev Verdicts := List (FormatQuery × Bool)

/-- The verdicts that are in, and the questions that wait for theirs. -/
structure FormatSession where
  verdicts : Verdicts
  pending : List FormatQuery

namespace FormatSession

variable {α : Type}

def empty : FormatSession := ⟨[], []⟩

/-- What a thread has for the pass that it is in. -/
abbrev Slot := Option FormatSession

/-- Notes a question, once. -/
def note (s : FormatSession) (q : FormatQuery) : FormatSession :=
  { s with pending := addNew s.pending q }

/-- The answer of an asynchronous format in a pass. -/
def answer (q : FormatQuery) : Slot → Bool × Slot
  | none => (true, none)
  | some s =>
    match s.verdicts.lookup q with
    | some verdict => (verdict, some s)
    | none => (true, some (s.note q))

/-- A pass with a session in the slot, which is taken out in the end. What was in the slot before is
gone, and so is the session if the slot was given away in between. -/
def within (s : FormatSession) (pass : Slot → α × Slot) (_ : Slot) :
    (FormatSession × α) × Slot :=
  let (a, slot) := pass (some s)
  ((slot.getD empty, a), none)

end FormatSession

/-- The answer of a format in a pass. A check that has waited has left the slot empty. -/
def Format.answer (f : Format) (text : String) (slot : FormatSession.Slot) :
    Bool × FormatSession.Slot :=
  if f.isAsync then FormatSession.answer ⟨f.name, text⟩ slot
  else
    match f.check text with
    | .awaited verdict => (verdict, none)
    | answer => (answer.now, slot)

theorem Format.find?_name {formats : List Format} {name : String} {f : Format}
    (h : Format.find? formats name = some f) : f.name = name := by
  simpa using List.find?_some h

namespace Settings

open FormatSession (Slot)

variable {α : Type}

/-- The answer to a question in a pass. Where formats are not validated, or nobody is registered
under the name, it is yes. -/
def answer (s : Settings) (q : FormatQuery) (slot : Slot) : Bool × Slot :=
  if s.validateFormats then
    match Format.find? s.formats q.format with
    | some f => f.answer q.data slot
    | none => (true, slot)
  else (true, slot)

/-- The pass that has these verdicts to begin with. -/
def pass (s : Settings) (i : Inquiry α) (verdicts : Verdicts) : FormatSession × α :=
  (FormatSession.within ⟨verdicts, []⟩ (i.runWith s.answer) none).1

/-- The verdicts with those that are waited for after a pass. -/
def resolve (s : Settings) (session : FormatSession) : Verdicts :=
  session.verdicts ++ session.pending.map fun q => (q, s.verdict q)

/-! ## A pass leaves open what it could not know -/

def isOpen (verdicts : Verdicts) (q : FormatQuery) : Bool := (verdicts.lookup q).isNone

/-- The session of an inquiry that began with these verdicts: it has them still, and waits for
answers to questions of the inquiry that were open. -/
structure Follows (verdicts : Verdicts) (questions : List FormatQuery) (session : FormatSession) :
    Prop where
  same : session.verdicts = verdicts
  waits : ∀ q ∈ session.pending, q ∈ questions ∧ isOpen verdicts q = true

variable {s : Settings} {verdicts : Verdicts} {questions : List FormatQuery}
  {session : FormatSession} {q : FormatQuery}

theorem Follows.note (h : Follows verdicts questions session) (hq : q ∈ questions)
    (hopen : verdicts.lookup q = none) : Follows verdicts questions (session.note q) := by
  refine ⟨h.same, fun p hp => ?_⟩
  rcases mem_addNew.1 hp with hp | rfl
  · exact h.waits p hp
  · exact ⟨hq, Option.isNone_iff_eq_none.2 hopen⟩

theorem Follows.answer {slot : Slot} (h : ∀ session ∈ slot, Follows verdicts questions session)
    (hq : q ∈ questions) :
    ∀ session ∈ (s.answer q slot).2, Follows verdicts questions session := by
  rw [Settings.answer]
  split
  · split
    · next f hf =>
        rw [Format.answer, Format.find?_name hf]
        split
        · cases slot with
          | none => exact h
          | some session =>
              have hsession := h session rfl
              rw [FormatSession.answer]
              split
              · exact h
              · next hlookup =>
                  rintro _ ⟨⟩
                  exact hsession.note hq (hsession.same ▸ hlookup)
        · split
          · nofun
          · exact h
    · exact h
  · exact h

/-- A pass that leaves questions open has kept its session. -/
theorem follows_of_pending {i : Inquiry α} (h : (s.pass i verdicts).1.pending ≠ []) :
    Follows verdicts i.questions (s.pass i verdicts).1 := by
  have hkeeps : ∀ session ∈ (i.runWith s.answer (some ⟨verdicts, []⟩)).2,
      Follows verdicts i.questions session := by
    refine Inquiry.runWith_keeps
      (P := fun slot => ∀ session ∈ slot, Follows verdicts i.questions session)
      (fun q hq slot hslot => Follows.answer hslot hq) ?_
    rintro _ ⟨⟩
    exact ⟨rfl, nofun⟩
  have hsession : (s.pass i verdicts).1 =
      (i.runWith s.answer (some ⟨verdicts, []⟩)).2.getD .empty := rfl
  rw [hsession] at h ⊢
  cases hslot : (i.runWith s.answer (some ⟨verdicts, []⟩)).2 with
  | none =>
      rw [hslot] at h
      exact absurd rfl h
  | some session => exact hkeeps session hslot

theorem isOpen_resolve (h : session.verdicts = verdicts) :
    isOpen (s.resolve session) q = true ↔ isOpen verdicts q = true ∧ q ∉ session.pending := by
  simp only [isOpen, resolve, h, Option.isNone_iff_eq_none, List.lookup_eq_none_iff,
    List.mem_append, List.mem_map]
  constructor
  · intro hnone
    refine ⟨fun p hp => hnone p (.inl hp), fun hq => ?_⟩
    simpa using hnone (q, s.verdict q) (.inr ⟨q, hq, rfl⟩)
  · rintro ⟨hnone, hq⟩ p (hp | ⟨r, hr, rfl⟩)
    · exact hnone p hp
    · have hne : q ≠ r := fun heq => hq (heq ▸ hr)
      simpa using hne

/-- What is waited for after a pass closes a question that was open. -/
theorem length_open_lt {i : Inquiry α} (h : (s.pass i verdicts).1.pending ≠ []) :
    (i.questions.filter (isOpen (s.resolve (s.pass i verdicts).1))).length <
      (i.questions.filter (isOpen verdicts)).length := by
  have hfollows := follows_of_pending h
  obtain ⟨q, hq⟩ := List.exists_mem_of_ne_nil _ h
  obtain ⟨hasked, hopen⟩ := hfollows.waits q hq
  have hless : i.questions.filter (isOpen (s.resolve (s.pass i verdicts).1)) =
      (i.questions.filter (isOpen verdicts)).filter
        (isOpen (s.resolve (s.pass i verdicts).1)) := by
    rw [List.filter_filter]
    refine List.filter_congr fun p _ => ?_
    cases hp : isOpen (s.resolve (s.pass i verdicts).1) p with
    | false => rfl
    | true => exact ((isOpen_resolve hfollows.same).1 hp).1.symm
  rw [hless]
  refine List.length_filter_lt_length_iff_exists.2
    ⟨q, List.mem_filter.2 ⟨hasked, hopen⟩, fun hclosed => ?_⟩
  exact ((isOpen_resolve hfollows.same).1 hclosed).2 hq

/-! ## Settling -/

/-- What an inquiry comes to, the questions that were waited for on the way, and the number of
passes. -/
structure Settlement (α : Type) where
  result : α
  checked : List FormatQuery
  passes : Nat

/-- Pass after pass until no question is left open. -/
def settleFrom (s : Settings) (i : Inquiry α) (verdicts : Verdicts) : Settlement α :=
  if h : (s.pass i verdicts).1.pending = [] then ⟨(s.pass i verdicts).2, [], 1⟩
  else
    have := @length_open_lt α s verdicts i h
    let later := settleFrom s i (s.resolve (s.pass i verdicts).1)
    ⟨later.result, (s.pass i verdicts).1.pending ++ later.checked, later.passes + 1⟩
termination_by (i.questions.filter (isOpen verdicts)).length

def settle (s : Settings) (i : Inquiry α) : Settlement α := s.settleFrom i []

end Settings

end SchemaPipeline
