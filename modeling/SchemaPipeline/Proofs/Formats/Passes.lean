import Mathlib.Data.Finset.Card
import SchemaPipeline.Proofs.Formats.Synchronous
import SchemaPipeline.Proofs.Validation.Lookup

/-!
# How many passes a settlement takes

A verdict changes the way an inquiry goes, so the open questions of a pass may
have little to do with those of the pass before. What grows from pass to pass is
the table of verdicts. The questions that a pass leaves behind are open and
listed once each, so no question ever has a second verdict (`nodup_resolve`, and
over all passes `settleFrom_checked`). Every pass but the last leaves at least
one, so there is at most one pass more than there are questions to ask. A pass
that loses its session leaves none and is the last.
-/

namespace SchemaPipeline

namespace Settings

variable {α : Type} {s : Settings} {verdicts : Verdicts} {i : Inquiry α}

/-! ## One pass -/

/-- The questions that have a verdict. -/
def closed (verdicts : Verdicts) : List FormatQuery := verdicts.map Prod.fst

theorem isOpen_iff {q : FormatQuery} :
    isOpen verdicts q = true ↔ q ∉ closed verdicts := by
  rw [isOpen, Option.isNone_iff_eq_none, List.lookup_eq_none_iff, closed,
    List.mem_map]
  constructor
  · rintro h ⟨p, hp, rfl⟩
    simpa using h p hp
  · intro h p hp
    rw [bne_iff_ne]
    rintro rfl
    exact h ⟨p, hp, rfl⟩

/-- A pass that leaves questions open has kept its session. -/
theorem kept_of_pending (h : (s.pass i verdicts).1.pending ≠ []) :
    s.Kept i ⟨verdicts, []⟩ (s.pass i verdicts).1 := by
  rw [pass_eq] at h ⊢
  cases hslot : (i.runWith s.answer (some ⟨verdicts, []⟩)).2 with
  | none =>
      rw [hslot] at h
      exact absurd rfl h
  | some after => exact (runWith_kept hslot).2

theorem mem_pending (h : (s.pass i verdicts).1.pending ≠ []) {q : FormatQuery} :
    q ∈ (s.pass i verdicts).1.pending ↔
      q ∈ i.asked (s.told (assume verdicts)) ∧ s.asksLater q = true ∧
        isOpen verdicts q = true := by
  rw [(kept_of_pending h).pending]
  exact or_iff_right List.not_mem_nil

theorem closed_resolve (h : (s.pass i verdicts).1.pending ≠ []) :
    closed (s.resolve (s.pass i verdicts).1) =
      closed verdicts ++ (s.pass i verdicts).1.pending := by
  rw [closed, resolve, List.map_append, List.map_map, (kept_of_pending h).verdicts]
  exact congrArg _ (List.map_id _)

/-- After a pass no question has two verdicts, if none had before. -/
theorem nodup_resolve (h : (s.pass i verdicts).1.pending ≠ [])
    (hnodup : (closed verdicts).Nodup) :
    (closed (s.resolve (s.pass i verdicts).1)).Nodup := by
  rw [closed_resolve h, List.nodup_append]
  refine ⟨hnodup, (kept_of_pending h).nodup List.nodup_nil, fun p hp q hq => ?_⟩
  rintro rfl
  exact isOpen_iff.1 ((mem_pending h).1 hq).2.2 hp

/-! ## All passes -/

/-- What is waited for over all passes: nothing that had a verdict, nothing
twice, and only what some pass asks an asynchronous format. -/
theorem settleFrom_checked (h : (closed verdicts).Nodup) :
    (closed verdicts ++ (s.settleFrom i verdicts).checked).Nodup ∧
      ∀ q ∈ (s.settleFrom i verdicts).checked, s.asksLater q = true ∧
        ∃ verdict, q ∈ i.asked (s.told verdict) := by
  induction verdicts using settleFrom.induct s i with
  | case1 verdicts hnone =>
      rw [settleFrom, dif_pos hnone]
      exact ⟨by rwa [List.append_nil], fun q hq => absurd hq List.not_mem_nil⟩
  | case2 verdicts hsome _ ih =>
      rw [settleFrom, dif_neg hsome]
      obtain ⟨hnodup, hasked⟩ := ih (nodup_resolve hsome h)
      rw [closed_resolve hsome, List.append_assoc] at hnodup
      refine ⟨hnodup, fun q hq => ?_⟩
      rcases List.mem_append.1 hq with hq | hq
      · obtain ⟨hmem, hlater, -⟩ := (mem_pending hsome).1 hq
        exact ⟨hlater, _, hmem⟩
      · exact hasked q hq

/-- Every pass but the last leaves a question. -/
theorem settleFrom_passes (s : Settings) (i : Inquiry α) (verdicts : Verdicts) :
    (s.settleFrom i verdicts).passes ≤
      (s.settleFrom i verdicts).checked.length + 1 := by
  induction verdicts using settleFrom.induct s i with
  | case1 verdicts hnone =>
      rw [settleFrom, dif_pos hnone]
      exact Nat.le_refl 1
  | case2 verdicts hsome _ ih =>
      rw [settleFrom, dif_neg hsome]
      have hpos := List.length_pos_iff.2 hsome
      simp only [List.length_append]
      omega

end Settings

namespace DocumentContext

open Settings

variable {J : Judge}

/-- If all questions that a pass over a value can ask an asynchronous format,
whatever verdicts it is given, are among so many, then the value is settled
after at most one pass more. No question is put to a format a second time in one
validation, and none that no pass asks. -/
theorem passes_le_and_asked_once (c : DocumentContext J) (v : Value)
    (Q : Finset FormatQuery)
    (hQ : ∀ verdict, ∀ q ∈ (c.judge v).asked (c.settings.told verdict),
      c.settings.asksLater q = true → q ∈ Q) :
    (c.settings.settle (c.judge v)).passes ≤ Q.card + 1 ∧
      (c.outcome v).asked.Nodup ∧ ∀ q ∈ (c.outcome v).asked, q ∈ Q := by
  have hnone : (closed ([] : Verdicts)).Nodup := List.nodup_nil
  obtain ⟨hnodup, hasked⟩ := settleFrom_checked (s := c.settings)
    (i := c.judge v) hnone
  have hnodup : (c.settings.settle (c.judge v)).checked.Nodup := hnodup
  have hsubset : ∀ q ∈ (c.settings.settle (c.judge v)).checked, q ∈ Q := by
    intro q hq
    obtain ⟨hlater, verdict, hmem⟩ := hasked q hq
    exact hQ verdict q hmem hlater
  refine ⟨?_, ?_⟩
  · have hpasses := c.settings.settleFrom_passes (c.judge v) []
    have hcard := Finset.card_le_card fun q hq =>
      hsubset q (List.mem_toFinset.1 hq)
    rw [List.toFinset_card_of_nodup hnodup] at hcard
    exact hpasses.trans (Nat.succ_le_succ hcard)
  · rw [outcome]
    split
    · exact ⟨hnodup, hsubset⟩
    · exact ⟨List.nodup_nil, fun q hq => absurd hq List.not_mem_nil⟩

/-- Texts of few characters, checked outside of the engine. -/
def shortText : Format :=
  ⟨"short", true, fun text => .pending (text.length < 4)⟩

/-- A schema that asks a second format only after the first one has agreed. -/
def hesitant : Value :=
  .object [("if", .object [("format", .string "even")]),
    ("then", .object [("format", .string "short")]),
    ("else", .object [("not", .object [("format", .string "even")])])]

theorem passes_le_and_asked_once_hesitant :
    ∃ c : DocumentContext Standard.bare,
      Standard.bare.context ⟨none, true, [evenLength, shortText]⟩ hesitant
        .empty = .ok c ∧
      (∀ verdict, ∀ q ∈ (c.judge (.string "abc")).asked
          (c.settings.told verdict), c.settings.asksLater q = true →
        q ∈ ({⟨"even", "abc"⟩, ⟨"short", "abc"⟩} : Finset FormatQuery)) ∧
      (c.settings.settle (c.judge (.string "abc"))).passes ≤ 2 + 1 ∧
      (c.outcome (.string "abc")).asked.Nodup ∧
      ∀ q ∈ (c.outcome (.string "abc")).asked,
        q ∈ ({⟨"even", "abc"⟩, ⟨"short", "abc"⟩} : Finset FormatQuery) := by
  have hquestions : (Standard.bare.context ⟨none, true, [evenLength, shortText]⟩
      hesitant .empty).toOption.map
        (fun c => (c.judge (.string "abc")).questions) =
      some [⟨"even", "abc"⟩, ⟨"short", "abc"⟩, ⟨"even", "abc"⟩] := by
    decide +kernel
  generalize Standard.bare.context ⟨none, true, [evenLength, shortText]⟩
    hesitant .empty = compiled at hquestions
  cases compiled with
  | error e => cases hquestions
  | ok c =>
      have hlist : (c.judge (.string "abc")).questions =
          [⟨"even", "abc"⟩, ⟨"short", "abc"⟩, ⟨"even", "abc"⟩] :=
        Option.some.inj hquestions
      have hQ : ∀ verdict, ∀ q ∈ (c.judge (.string "abc")).asked
          (c.settings.told verdict), c.settings.asksLater q = true →
            q ∈ ({⟨"even", "abc"⟩, ⟨"short", "abc"⟩} : Finset FormatQuery) := by
        intro verdict q hq _
        have hmem := Inquiry.mem_questions_of_mem_asked hq
        rw [hlist] at hmem
        simp only [List.mem_cons, List.not_mem_nil, or_false] at hmem
        rw [Finset.mem_insert, Finset.mem_singleton]
        rcases hmem with heven | hshort | heven
        · exact .inl heven
        · exact .inr hshort
        · exact .inl heven
      exact ⟨c, rfl, hQ, passes_le_and_asked_once c (.string "abc") _ hQ⟩

end DocumentContext

end SchemaPipeline
