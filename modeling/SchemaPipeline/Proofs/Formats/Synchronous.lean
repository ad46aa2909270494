import SchemaPipeline.Engine.Judge
import SchemaPipeline.Proofs.Formats.Settlement
import SchemaPipeline.Validation.Standard

/-!
# Deferred checks and checks at once

Whether a format answers at once or later makes no difference to a report. Put
the verdict of every asynchronous format at once into the settings, compile the
same schema with them, and each context of the first compilation has a twin in
the second: the same document with the same base in the same table. A judge
cannot tell the settings apart, as it knows formats by their names, so twins
have the same inquiry about a value; and the true answers are the same on both
sides.

On the first side this takes passes with a session. Formats that announce it when
they wait keep every session; without that a report is still the one of the true
answers or that of a pass which has lost its session. On the second side, where
nobody has to be waited for, there is no session that could be lost.
-/

namespace SchemaPipeline

/-! ## Formats that answer at once -/

/-- The format with its verdicts there at once. -/
def Format.atOnce (f : Format) : Format :=
  if f.isAsync then ⟨f.name, false, fun s => .ready (f.check s).verdict⟩ else f

@[simp] theorem Format.atOnce_name (f : Format) : f.atOnce.name = f.name := by
  rw [Format.atOnce]
  split <;> rfl

@[simp] theorem Format.atOnce_isAsync (f : Format) :
    f.atOnce.isAsync = false := by
  rw [Format.atOnce]
  split
  · rfl
  · next h => exact Bool.eq_false_iff.2 h

theorem Format.find?_atOnce (formats : List Format) (name : String) :
    Format.find? (formats.map Format.atOnce) name =
      (Format.find? formats name).map Format.atOnce := by
  rw [Format.find?, Format.find?, List.find?_map]
  simp only [Function.comp_def, Format.atOnce_name]

namespace Settings

/-- The settings with every verdict there at once. -/
def atOnce (s : Settings) : Settings :=
  { s with formats := s.formats.map Format.atOnce }

variable {s : Settings}

/-- A judge is told the same. -/
theorem terms_atOnce (s : Settings) : s.atOnce.terms = s.terms := by
  simp [terms, names, atOnce, Function.comp_def]

/-- Nothing has to be waited for. -/
theorem isDeferred_atOnce (s : Settings) : s.atOnce.isDeferred = false := by
  rw [isDeferred, deferred]
  split
  · simp [atOnce]
  · rfl

/-- What a question is answered by is found among those that are waited for. -/
theorem find?_deferred {f : Format} {name : String}
    (hon : s.validateFormats = true) (hf : Format.find? s.formats name = some f)
    (hasync : f.isAsync = true) : Format.find? s.deferred name = some f := by
  rw [deferred, if_pos hon]
  rw [Format.find?, List.find?_eq_some_iff_append] at hf ⊢
  obtain ⟨hname, before, after, hsplit, hbefore⟩ := hf
  refine ⟨hname, before.filter Format.isAsync, after.filter Format.isAsync, ?_, ?_⟩
  · rw [hsplit, List.filter_append, List.filter_cons, if_pos hasync]
  · exact fun g hg => hbefore g (List.mem_filter.1 hg).1

theorem asksLater_of_not_deferred (h : s.isDeferred = false) (q : FormatQuery) :
    s.asksLater q = false := by
  rw [← Bool.not_eq_true, asksLater, Bool.and_eq_true, Option.any_eq_true]
  rintro ⟨hon, f, hf, hasync⟩
  have hmem := List.mem_of_find?_eq_some (find?_deferred hon hf hasync)
  rw [isDeferred, Bool.not_eq_false', List.isEmpty_iff] at h
  rw [h] at hmem
  cases hmem

/-- The true answers stay what they are, and no verdict has a part in them. -/
theorem told_atOnce (verdict : FormatQuery → Bool) :
    s.atOnce.told verdict = s.truth := by
  funext q
  have hfind : Format.find? s.atOnce.formats q.format =
      (Format.find? s.formats q.format).map Format.atOnce :=
    Format.find?_atOnce s.formats q.format
  by_cases hon : s.validateFormats = true
  · have hon' : s.atOnce.validateFormats = true := hon
    rw [truth, told, told, if_pos hon, if_pos hon', hfind]
    cases hf : Format.find? s.formats q.format with
    | none => rfl
    | some f =>
        dsimp only [Option.map_some]
        rw [Format.atOnce_isAsync, if_neg Bool.false_ne_true, Format.atOnce]
        cases hasync : f.isAsync with
        | true =>
            rw [if_pos rfl, if_pos rfl, Settings.verdict,
              find?_deferred hon hf hasync]
            rfl
        | false => rw [if_neg Bool.false_ne_true, if_neg Bool.false_ne_true]
  · have hon' : ¬ s.atOnce.validateFormats = true := hon
    rw [truth, told, told, if_neg hon, if_neg hon']

end Settings

/-! ## What a context reports -/

namespace DocumentContext

variable {J : Judge} {c : DocumentContext J}

/-- The verdict is the one that the judge gives. -/
def Made (c : DocumentContext J) : Prop :=
  c.verdict.get = J.compile c.settings.terms c.known c.schema

/-- A report is that of the run on true answers, or somebody has to be waited
for and the last pass has lost its session. -/
theorem report_cases (c : DocumentContext J) (v : Value) :
    (c.outcome v).report = (c.judge v).run c.settings.truth ∨
      c.settings.isDeferred = true ∧
        c.settings.Loses (c.judge v) (c.outcome v).report := by
  rw [outcome]
  cases hdeferred : c.settings.isDeferred with
  | true =>
      rw [if_pos rfl]
      exact (c.settings.settle_cases (c.judge v)).imp_right (⟨rfl, ·⟩)
  | false =>
      refine .inl ?_
      rw [if_neg Bool.false_ne_true, Settings.runWith_none]
      refine Inquiry.run_congr fun q _ => Settings.told_congr fun hlater => ?_
      rw [Settings.asksLater_of_not_deferred hdeferred] at hlater
      cases hlater

theorem report_of_announced (h : c.settings.Announced) (v : Value) :
    (c.outcome v).report = (c.judge v).run c.settings.truth :=
  (c.report_cases v).resolve_right fun hlost =>
    Settings.not_loses h _ hlost.2

/-- The context at the end of a chain of references to documents. -/
def reach (c : DocumentContext J) : List String → Option (DocumentContext J)
  | [] => some c
  | reference :: rest => (c.document? reference).bind (·.reach rest)

/-- What is reported on a value by each context that can be reached. -/
def reports (c : DocumentContext J) (references : List String) (v : Value) :
    Option Report :=
  (c.reach references).map fun d => (d.outcome v).report

/-! ## Twins -/

/-- Contexts of one document, the second one with every verdict at once. -/
structure Twins (c c' : DocumentContext J) : Prop where
  settings : c'.settings = c.settings.atOnce
  known : c'.known = c.known
  schema : c'.schema = c.schema
  base : c'.base = c.base
  made : c.Made
  made' : c'.Made

namespace Twins

variable {c' : DocumentContext J}

theorem judge (h : Twins c c') (v : Value) : c'.judge v = c.judge v := by
  have hmade := h.made
  have hmade' := h.made'
  rw [Made] at hmade hmade'
  rw [h.settings, Settings.terms_atOnce, h.known, h.schema, ← hmade] at hmade'
  rw [DocumentContext.judge, DocumentContext.judge, hmade']

theorem report_cases (h : Twins c c') (v : Value) :
    (c.outcome v).report = (c'.outcome v).report ∨
      c.settings.Loses (c.judge v) (c.outcome v).report := by
  refine (c.report_cases v).imp (fun hreport => ?_) And.right
  have hready : c'.settings.isDeferred = false := by
    rw [h.settings, Settings.isDeferred_atOnce]
  have hreport' := (c'.report_cases v).resolve_right fun hlost => by
    rw [hready] at hlost
    cases hlost.1
  calc (c.outcome v).report
    _ = (c.judge v).run c.settings.truth := hreport
    _ = (c'.judge v).run c'.settings.truth := by
      rw [h.judge, h.settings,
        show c.settings.atOnce.truth = c.settings.truth from
          Settings.told_atOnce _]
    _ = (c'.outcome v).report := hreport'.symm

/-- What a reference leads to are twins again. -/
theorem document? (h : Twins c c') (reference : String) :
    (c.document? reference = none ∧ c'.document? reference = none) ∨
      ∃ d d', c.document? reference = some d ∧
        c'.document? reference = some d' ∧ Twins d d' ∧
        d.settings = c.settings := by
  cases hfind : c.known.find? (Reference.absolute c.base reference) with
  | none =>
      left
      simp [DocumentContext.document?, h.base, h.known, hfind]
  | some schema =>
      right
      simp only [DocumentContext.document?, h.base, h.known, hfind,
        Option.map_some]
      exact ⟨_, _, rfl, rfl, ⟨h.settings, rfl, rfl, rfl, rfl, rfl⟩, rfl⟩

end Twins

/-! ## Compiling with every verdict at once -/

/-- Texts of even length, checked outside of the engine. -/
def evenLength : Format :=
  ⟨"even", true, fun text => .pending (text.length % 2 == 0)⟩

end DocumentContext

end SchemaPipeline
