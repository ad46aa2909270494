import Mathlib.Data.List.Induction
import Mathlib.Data.List.Nodup
import SchemaPipeline.Proofs.Formats.Synchronous

/-!
# Formats that are registered before and after a compilation

An engine is used over a sequence of calls. Formats are registered, schemas are
compiled, and the contexts that come out are held on to: a document may be
opened from one of them long after, when other formats have taken the places of
the ones that were there. `Held` follows a context through all of this together
with the calls before the compilation that it goes back to.

Registering keeps one format to a name, the last one (`find?_table`), and
nothing that happens to a held context touches its settings (`Held.settings`).
So every context answers as the formats did that were registered last before
its compilation, and it makes a caller wait exactly when one of these does.
-/

namespace SchemaPipeline

/-! ## One format to a name -/

namespace Format

/-- The format that was registered last under a name. -/
def lastUnder (registered : List Format) (name : String) : Option Format :=
  registered.reverse.find? (·.name == name)

/-- The table that registering formats one after the other leads to. -/
def table (registered : List Format) : List Format := registered.foldl register []

theorem table_append (registered : List Format) (f : Format) :
    table (registered ++ [f]) = register (table registered) f := by
  rw [table, List.foldl_append]
  rfl

theorem lastUnder_append (registered : List Format) (f : Format) (name : String) :
    lastUnder (registered ++ [f]) name =
      if f.name = name then some f else lastUnder registered name := by
  rw [lastUnder, List.reverse_append, List.reverse_singleton,
    List.singleton_append, List.find?_cons]
  by_cases h : f.name = name
  · rw [if_pos h, beq_iff_eq.2 h]
  · rw [if_neg h, beq_false_of_ne h]
    rfl

theorem find?_register (formats : List Format) (f : Format) (name : String) :
    find? (register formats f) name =
      if f.name = name then some f else find? formats name := by
  rw [find?, register, List.find?_append, List.find?_filter, find?]
  by_cases h : f.name = name
  · -- the filter has left none of this name
    have hnone : formats.find? (fun g =>
        decide ((g.name != f.name) = true ∧ (g.name == name) = true)) = none := by
      refine List.find?_eq_none.2 fun g _ => ?_
      simp [h]
    rw [if_pos h, hnone, Option.none_or, List.find?_cons, beq_iff_eq.2 h]
  · have hsame : (fun g : Format =>
        decide ((g.name != f.name) = true ∧ (g.name == name) = true)) =
          fun g => g.name == name := by
      funext g
      by_cases hg : g.name = name
      · simp [hg, Ne.symm h]
      · simp [hg]
    rw [if_neg h, hsame, List.find?_cons, beq_false_of_ne h]
    exact Option.or_none

theorem nodup_register {formats : List Format}
    (h : (formats.map Format.name).Nodup) (f : Format) :
    ((register formats f).map Format.name).Nodup := by
  rw [register, List.map_append, List.map_singleton]
  refine List.Nodup.append ?_ (List.nodup_singleton _) ?_
  · exact h.sublist (List.filter_sublist.map _)
  · intro name hname hf
    obtain ⟨g, hg, rfl⟩ := List.mem_map.1 hname
    have hne := (List.mem_filter.1 hg).2
    rw [List.mem_singleton] at hf
    exact absurd hf (by simpa using hne)

theorem nodup_table (registered : List Format) :
    ((table registered).map Format.name).Nodup := by
  induction registered using List.reverseRecOn with
  | nil => exact List.nodup_nil
  | append_singleton rest f ih =>
      rw [table_append]
      exact nodup_register ih f

/-- What is looked up is what was registered last. -/
theorem find?_table (registered : List Format) (name : String) :
    find? (table registered) name = lastUnder registered name := by
  induction registered using List.reverseRecOn with
  | nil => rfl
  | append_singleton rest f ih =>
      rw [table_append, find?_register, lastUnder_append, ih]

/-- Where no name occurs twice a format is found under its name. -/
theorem find?_of_mem {formats : List Format}
    (h : (formats.map Format.name).Nodup) {f : Format} (hf : f ∈ formats) :
    find? formats f.name = some f := by
  induction formats with
  | nil => cases hf
  | cons g rest ih =>
      rw [List.map_cons, List.nodup_cons] at h
      rw [find?, List.find?_cons]
      rcases List.mem_cons.1 hf with rfl | hf
      · rw [beq_self_eq_true]
      · have hne : g.name ≠ f.name := by
          intro heq
          exact h.1 (heq ▸ List.mem_map_of_mem hf)
        rw [beq_false_of_ne hne]
        exact ih h.2 hf

/-- A part of the table answers for its formats as the table does. -/
theorem find?_filter {formats : List Format}
    (h : (formats.map Format.name).Nodup) (p : Format → Bool) (name : String) :
    find? (formats.filter p) name = (find? formats name).filter p := by
  have hpart : ((formats.filter p).map Format.name).Nodup :=
    h.sublist (List.filter_sublist.map _)
  apply Option.ext
  intro f
  rw [Option.filter_eq_some_iff]
  constructor
  · intro hf
    obtain ⟨hmem, hp⟩ := List.mem_filter.1 (List.mem_of_find?_eq_some hf)
    have hname : f.name = name := by simpa using List.find?_some hf
    rw [← hname]
    exact ⟨find?_of_mem h hmem, hp⟩
  · rintro ⟨hf, hp⟩
    have hname : f.name = name := by simpa using List.find?_some hf
    have hmem := List.mem_filter.2 ⟨List.mem_of_find?_eq_some hf, hp⟩
    rw [← hname]
    exact find?_of_mem hpart hmem

end Format

/-! ## Settings -/

namespace Settings

theorem find?_deferred_eq {s : Settings} (h : s.names.Nodup) (name : String) :
    Format.find? s.deferred name =
      if s.validateFormats then
        (Format.find? s.formats name).filter Format.isAsync
      else none := by
  rw [deferred]
  cases s.validateFormats with
  | false => rfl
  | true => exact Format.find?_filter h Format.isAsync name

/-- Somebody has to be waited for exactly if there is a name that it is. -/
theorem isDeferred_iff {s : Settings} (h : s.names.Nodup) :
    s.isDeferred = true ↔ s.validateFormats = true ∧
      ∃ name f, Format.find? s.formats name = some f ∧ f.isAsync = true := by
  rw [isDeferred, deferred, Bool.not_eq_true', ← Bool.not_eq_true,
    List.isEmpty_iff]
  constructor
  · intro hsome
    by_cases hon : s.validateFormats = true
    · rw [if_pos hon] at hsome
      obtain ⟨f, hf⟩ := List.exists_mem_of_ne_nil _ hsome
      obtain ⟨hmem, hasync⟩ := List.mem_filter.1 hf
      exact ⟨hon, f.name, f, Format.find?_of_mem h hmem, hasync⟩
    · rw [if_neg hon] at hsome
      exact absurd rfl hsome
  · rintro ⟨hon, name, f, hf, hasync⟩
    rw [if_pos hon]
    exact List.ne_nil_of_mem
      (List.mem_filter.2 ⟨List.mem_of_find?_eq_some hf, hasync⟩)

end Settings

/-! ## Calls of an engine -/

namespace Judge

inductive Call where
  | register (f : Format)
  | compile (schema : Value) (given : Documents)

namespace Call

def format? : Call → Option Format
  | .register f => some f
  | .compile .. => none

def perform (J : Judge) (s : Settings) : Call → Settings
  | .register f => J.compiler.register f s
  | .compile schema given => (J.compiler.compile schema given s).2

end Call

/-- The formats that are registered in a sequence of calls, in their order. -/
def registered (calls : List Call) : List Format := calls.filterMap Call.format?

/-- The settings after a sequence of calls. -/
def settingsAfter (J : Judge) (config : Config) (calls : List Call) : Settings :=
  calls.foldl (Call.perform J) (Settings.ofConfig config)

variable {J : Judge} {config : Config}

theorem settingsAfter_append (calls : List Call) (call : Call) :
    J.settingsAfter config (calls ++ [call]) =
      call.perform J (J.settingsAfter config calls) := by
  rw [settingsAfter, List.foldl_append]
  rfl

theorem registered_append (calls : List Call) (call : Call) :
    registered (calls ++ [call]) = registered calls ++ call.format?.toList := by
  rw [registered, List.filterMap_append]
  cases call <;> rfl

/-- The calls leave their mark on the table of formats only. -/
theorem settingsAfter_eq (calls : List Call) :
    J.settingsAfter config calls =
      ⟨config.draft, config.validateFormats, Format.table (registered calls)⟩ := by
  induction calls using List.reverseRecOn with
  | nil => rfl
  | append_singleton rest call ih =>
      rw [settingsAfter_append, ih, registered_append]
      cases call with
      | register f =>
          have htable := Format.table_append (registered rest) f
          exact congrArg (Settings.mk _ _) htable.symm
      | compile schema given =>
          have hsame := List.append_nil (registered rest)
          exact congrArg (fun fs => Settings.mk _ _ (Format.table fs)) hsame.symm

theorem nodup_settingsAfter (calls : List Call) :
    (J.settingsAfter config calls).names.Nodup := by
  rw [settingsAfter_eq]
  exact Format.nodup_table _

theorem find?_settingsAfter (calls : List Call) (name : String) :
    Format.find? (J.settingsAfter config calls).formats name =
      Format.lastUnder (registered calls) name := by
  rw [settingsAfter_eq]
  exact Format.find?_table _ name

/-- A context that is at hand after a sequence of calls, with the calls before
the compilation that it goes back to. Calls that come later leave it at hand,
and at any time the documents that it refers to can be opened. -/
inductive Held (J : Judge) (config : Config) :
    List Call → List Call → DocumentContext J → Prop where
  | compiled {before : List Call} {schema : Value} {given : Documents}
      {c : DocumentContext J}
      (h : (J.compiler.compile schema given (J.settingsAfter config before)).1 =
        .ok c) :
      Held J config before (before ++ [.compile schema given]) c
  | later {before now : List Call} {c : DocumentContext J} (call : Call)
      (h : Held J config before now c) : Held J config before (now ++ [call]) c
  | opened {before now : List Call} {c d : DocumentContext J} {reference : String}
      (h : Held J config before now c)
      (hd : c.document? reference = some d) : Held J config before now d

namespace Held

variable {before now : List Call} {c : DocumentContext J}

/-- A context keeps the settings of its compilation, and its verdict is made
from them whenever it is made. -/
theorem settings (h : Held J config before now c) :
    c.settings = J.settingsAfter config before ∧ c.Made := by
  induction h with
  | @compiled schema given c h =>
      simp only [compiler, context] at h
      split at h
      · next verdict hverdict =>
          cases h
          exact ⟨rfl, hverdict.symm⟩
      · cases h
  | later call _ ih => exact ih
  | @opened now c d reference _ hd ih =>
      obtain ⟨schema, -, rfl⟩ := Option.map_eq_some_iff.1 hd
      exact ⟨ih.1, rfl⟩

end Held

end Judge

/-! ## What held contexts answer -/

namespace DocumentContext

open FormatSession (Slot)
open Judge

/-- The answer in a pass of the format that was registered last under the name.
Nobody answers by yes. -/
def lastAnswer (config : Config) (registered : List Format) (q : FormatQuery)
    (slot : Slot) : Bool × Slot :=
  if config.validateFormats then
    match Format.lastUnder registered q.format with
    | some f => f.answer q.data slot
    | none => (true, slot)
  else (true, slot)

/-- The true answer of the format that was registered last under the name. One
that does not announce that it has to be waited for answers at once. -/
def lastTruth (config : Config) (registered : List Format) (q : FormatQuery) :
    Bool :=
  if config.validateFormats then
    match Format.lastUnder registered q.format with
    | some f =>
      if f.isAsync then (f.check q.data).verdict else (f.check q.data).now
    | none => true
  else true

/-- What is reported when all questions have their answers. -/
def reportBy (answer : FormatQuery → Bool) :
    Except JudgeError Verdict → Value → Report
  | .ok verdict, v => (verdict v).run answer
  | .error e, _ => failure e

variable {J : Judge} {config : Config}

theorem validateFormats_settingsAfter (calls : List Judge.Call) :
    (J.settingsAfter config calls).validateFormats = config.validateFormats := by
  rw [settingsAfter_eq]

theorem answer_settingsAfter (calls : List Judge.Call) (q : FormatQuery)
    (slot : Slot) :
    (J.settingsAfter config calls).answer q slot =
      lastAnswer config (registered calls) q slot := by
  rw [Settings.answer, find?_settingsAfter, validateFormats_settingsAfter]
  rfl

theorem truth_settingsAfter (calls : List Judge.Call) (q : FormatQuery) :
    (J.settingsAfter config calls).truth q =
      lastTruth config (registered calls) q := by
  have hfind : Format.find? (J.settingsAfter config calls).formats q.format =
      Format.lastUnder (registered calls) q.format :=
    find?_settingsAfter calls q.format
  have hon : (J.settingsAfter config calls).validateFormats =
      config.validateFormats := validateFormats_settingsAfter calls
  rw [Settings.truth, Settings.told, lastTruth, hfind, hon]
  split
  · next h =>
      cases hf : Format.lastUnder (registered calls) q.format with
      | none => rfl
      | some f =>
          dsimp only
          split
          · next hasync =>
              rw [Settings.verdict, Settings.find?_deferred (hon.trans h)
                (hfind.trans hf) hasync]
          · rfl
  · rfl

/-- The table holds nothing but what was registered last. -/
theorem announced_settingsAfter {calls : List Judge.Call}
    (h : ∀ name f, Format.lastUnder (registered calls) name = some f →
      f.Announced) : (J.settingsAfter config calls).Announced := by
  intro f hf
  refine h f.name f ?_
  have hfind : Format.find? (J.settingsAfter config calls).formats f.name =
      some f := Format.find?_of_mem (nodup_settingsAfter calls) hf
  rwa [find?_settingsAfter] at hfind

/-- However formats are registered, the table never has a name twice, and a
context answers as the formats that were registered last before it was
compiled: question by question and pass by pass, in the table of those that are
waited for, in whether it makes a caller wait, and in what it reports. This
holds of the documents opened from it as well, and whatever is registered
later. The report is the one of the true answers of these formats, except that
the last pass may have lost its session, which takes a format that waits without
having announced it. -/
theorem answers_as_registered (J : Judge) (config : Config) :
    (∀ calls, (J.settingsAfter config calls).names.Nodup) ∧
    ∀ before now c, Held J config before now c →
      (∀ q slot, c.settings.answer q slot =
        lastAnswer config (registered before) q slot) ∧
      (∀ name, Format.find? c.settings.deferred name =
        if config.validateFormats then
          (Format.lastUnder (registered before) name).filter Format.isAsync
        else none) ∧
      ∀ v, ((c.outcome v).deferred = true ↔ config.validateFormats = true ∧
          ∃ name f, Format.lastUnder (registered before) name = some f ∧
            f.isAsync = true) ∧
        ((c.outcome v).report =
            reportBy (lastTruth config (registered before))
              (J.compile (J.settingsAfter config before).terms c.known
                c.schema) v ∨
          (c.outcome v).deferred = true ∧
            c.settings.Loses (c.judge v) (c.outcome v).report) ∧
        ((∀ name f, Format.lastUnder (registered before) name = some f →
            f.Announced) →
          (c.outcome v).report =
            reportBy (lastTruth config (registered before))
              (J.compile (J.settingsAfter config before).terms c.known
                c.schema) v) := by
  refine ⟨nodup_settingsAfter, fun before now c hheld => ?_⟩
  obtain ⟨hsettings, hmade⟩ := hheld.settings
  have hnodup : c.settings.names.Nodup := by
    rw [hsettings]
    exact nodup_settingsAfter before
  have hfind : ∀ name, Format.find? c.settings.formats name =
      Format.lastUnder (registered before) name := by
    intro name
    rw [hsettings, find?_settingsAfter]
  have hon : c.settings.validateFormats = config.validateFormats := by
    rw [hsettings, validateFormats_settingsAfter]
  have hdeferred : ∀ v, (c.outcome v).deferred = c.settings.isDeferred := by
    intro v
    rw [outcome]
    cases c.settings.isDeferred <;> rfl
  have htruth : ∀ v, (c.judge v).run c.settings.truth =
      reportBy (lastTruth config (registered before))
        (J.compile (J.settingsAfter config before).terms c.known c.schema) v := by
    intro v
    have hanswer : c.settings.truth = lastTruth config (registered before) := by
      rw [hsettings]
      exact funext (truth_settingsAfter before)
    rw [judge, show c.verdict.get = _ from hmade, hanswer, hsettings]
    cases J.compile (J.settingsAfter config before).terms c.known c.schema with
    | error e => rfl
    | ok verdict => rfl
  refine ⟨fun q slot => ?_, fun name => ?_, fun v => ⟨?_, ?_, fun hannounced => ?_⟩⟩
  · rw [hsettings, answer_settingsAfter]
  · rw [Settings.find?_deferred_eq hnodup, hon, hfind]
  · rw [hdeferred, Settings.isDeferred_iff hnodup, hon]
    simp only [hfind]
  · rw [hdeferred, ← htruth]
    exact c.report_cases v
  · rw [← htruth]
    refine report_of_announced ?_ v
    rw [hsettings]
    exact announced_settingsAfter hannounced

/-- A judge that knows the keyword `format` and no other one. -/
def formatJudge : Judge where
  compile terms _ schema := .ok fun v =>
    match schema.get? "format", v with
    | some (.string name), .string text =>
      if terms.formats.contains name then
        (Inquiry.query ⟨name, text⟩).bind fun accepted =>
          .done (if accepted then .empty else ⟨[⟨"", text⟩]⟩)
      else .done .empty
    | _, _ => .done .empty

/-- Upper-case texts, told at once. -/
def upperNow : Format :=
  ⟨"upper", false, fun text => .ready (text.toList.all Char.isUpper)⟩

/-- Every text, after a while. -/
def upperLater : Format := ⟨"upper", true, fun _ => .pending true⟩

def shouting : Value := .object [("format", .string "upper")]

/-- The document of a context is opened after its format has been replaced by
one that has to be waited for: it answers as before, at once. -/
theorem answers_as_registered_replaced :
    ∃ c d : DocumentContext formatJudge,
      c.document? "urn:d" = some d ∧ d.schema = shouting ∧
      Held formatJudge .default [.register upperNow]
        [.register upperNow, .compile (.object []) ⟨[("urn:d", shouting)]⟩,
          .register upperLater] d ∧
      Format.lastUnder (registered [.register upperNow]) "upper" = some upperNow ∧
      (d.outcome (.string "a")).deferred = false ∧
      (d.outcome (.string "a")).report = ⟨[⟨"", "a"⟩]⟩ := by
  obtain ⟨c, hc⟩ : ∃ c, (formatJudge.compiler.compile (.object [])
      ⟨[("urn:d", shouting)]⟩
      (formatJudge.settingsAfter .default [.register upperNow])).1 = .ok c :=
    ⟨_, rfl⟩
  have hfind : (c.document? "urn:d").map DocumentContext.schema =
      some shouting := by
    cases hc
    decide +kernel
  obtain ⟨d, hd, hschema⟩ := Option.map_eq_some_iff.1 hfind
  have hheld : Held formatJudge .default [.register upperNow]
      [.register upperNow, .compile (.object []) ⟨[("urn:d", shouting)]⟩,
        .register upperLater] d :=
    .opened (.later (.register upperLater) (.compiled hc)) hd
  obtain ⟨-, hanswers⟩ := answers_as_registered formatJudge .default
  obtain ⟨-, -, houtcome⟩ := hanswers _ _ d hheld
  obtain ⟨hdeferred, -, hreport⟩ := houtcome (.string "a")
  have hlast : ∀ name f,
      Format.lastUnder (registered [.register upperNow]) name = some f →
        f = upperNow := by
    intro name f hf
    have hmem : f ∈ [upperNow] :=
      List.mem_reverse.1 (List.mem_of_find?_eq_some hf)
    exact List.mem_singleton.1 hmem
  refine ⟨c, d, hd, hschema, hheld, rfl, ?_, ?_⟩
  · rw [← Bool.not_eq_true, hdeferred]
    rintro ⟨-, name, f, hf, hasync⟩
    rw [hlast name f hf] at hasync
    cases hasync
  · rw [hreport fun name f hf => ?_, hschema]
    · rfl
    · rw [hlast name f hf]
      nofun

end DocumentContext

end SchemaPipeline
