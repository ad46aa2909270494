import Mathlib.Data.List.Forall2
import SchemaPipeline.Command.Run
import SchemaPipeline.Engine.Scripted

/-!
# What validating files reports

The program takes its data files one after the other. A file comes to a result,
or it stops the program: it cannot be loaded, or its pipeline has no result. A
file that is not valid has a result like any other, so it stops nothing.

`reportFiles_append` is the one induction, on the files that come to a result:
their lines stand in front of whatever the files behind them lead to, and what
is printed for one of them depends on this file alone. `Reported` says what
follows for the output and the exit code of the program.
-/

namespace SchemaPipeline.Command

variable {σ κ : Type} [SchemaContext κ]

/-! ## A single file -/

/-- The file can be loaded, and this is the result of its pipeline. -/
def Comes (w : Surroundings) (r : Registry σ κ) (v : Validator κ) (path : String)
    (result : Pipeline.Result) : Prop :=
  ∃ data, loadValue w.files path = .ok data ∧
    (r.validate v w.limits.depth data).result = .ok result

/-- The file cannot be loaded, or its pipeline has no result. -/
def Stops (w : Surroundings) (r : Registry σ κ) (v : Validator κ)
    (path : String) : Prop :=
  (∃ t, loadValue w.files path = .error t) ∨
    ∃ data stop, loadValue w.files path = .ok data ∧
      (r.validate v w.limits.depth data).result = .error stop

/-- How a file is run: not at all, or to the end of its pipeline. -/
theorem runFile_cases (w : Surroundings) (r : Registry σ κ) (v : Validator κ)
    (path : String) :
    (∃ result, Comes w r v path result ∧ runFile w r v path = .ok result) ∨
      Stops w r v path ∧ ∃ t, runFile w r v path = .error t := by
  cases hload : loadValue w.files path with
  | error t => exact .inr ⟨.inl ⟨t, hload⟩, t, by rw [runFile, hload]; rfl⟩
  | ok data =>
      cases hresult : (r.validate v w.limits.depth data).result with
      | ok result =>
          refine .inl ⟨result, ⟨data, hload, hresult⟩, ?_⟩
          simp only [runFile, hload, bind, Except.bind, hresult]
      | error stop =>
          refine .inr ⟨.inr ⟨data, stop, hload, hresult⟩, ?_⟩
          cases stop with
          | error e => exact ⟨.pipeline path e, by
              simp only [runFile, hload, bind, Except.bind, hresult]⟩
          | exhausted => exact ⟨.unfinished path, by
              simp only [runFile, hload, bind, Except.bind, hresult]⟩

section

variable {w : Surroundings} {r : Registry σ κ} {v : Validator κ} {path : String}

theorem Comes.not_stops {result : Pipeline.Result}
    (h : Comes w r v path result) : ¬ Stops w r v path := by
  obtain ⟨data, hload, hresult⟩ := h
  rintro (⟨t, hfail⟩ | ⟨data', stop, hload', hstop⟩)
  · cases hload.symm.trans hfail
  · cases hload.symm.trans hload'
    cases hresult.symm.trans hstop

theorem Comes.unique {result other : Pipeline.Result}
    (h : Comes w r v path result) (h' : Comes w r v path other) :
    result = other := by
  obtain ⟨data, hload, hresult⟩ := h
  obtain ⟨data', hload', hother⟩ := h'
  cases hload.symm.trans hload'
  exact Except.ok.inj (hresult.symm.trans hother)

theorem Comes.runFile {result : Pipeline.Result} (h : Comes w r v path result) :
    runFile w r v path = .ok result := by
  rcases runFile_cases w r v path with ⟨other, hother, hrun⟩ | ⟨hstops, -⟩
  · rw [h.unique hother, hrun]
  · exact absurd hstops h.not_stops

theorem Stops.runFile (h : Stops w r v path) :
    ∃ t, Command.runFile w r v path = .error t := by
  rcases runFile_cases w r v path with ⟨result, hcomes, -⟩ | ⟨-, hrun⟩
  · exact absurd h hcomes.not_stops
  · exact hrun

/-- All files come to a result, or one of them is the first that stops. -/
theorem comes_or_stops (w : Surroundings) (r : Registry σ κ) (v : Validator κ)
    (files : List String) :
    (∃ results, List.Forall₂ (Comes w r v) files results) ∨
      ∃ before path after results, files = before ++ path :: after ∧
        List.Forall₂ (Comes w r v) before results ∧ Stops w r v path := by
  induction files with
  | nil => exact .inl ⟨[], .nil⟩
  | cons path rest ih =>
      rcases runFile_cases w r v path with ⟨result, hcomes, -⟩ | ⟨hstops, -⟩
      · rcases ih with ⟨results, hall⟩ |
          ⟨before, last, after, results, rfl, hbefore, hlast⟩
        · exact .inl ⟨_, .cons hcomes hall⟩
        · exact .inr ⟨_, last, after, _, rfl, .cons hcomes hbefore, hlast⟩
      · exact .inr ⟨[], path, rest, [], rfl, .nil, hstops⟩

end

/-! ## Files in a row -/

/-- The transcript that begins with results. -/
def Transcript.reporting (compact : Bool) (results : List Pipeline.Result)
    (t : Transcript) : Transcript :=
  { t with
    lines := results.map (render compact) ++ t.lines
    failed := !results.all (·.success) || t.failed }

theorem Transcript.after_reporting (compact : Bool) (x : Pipeline.Result)
    (results : List Pipeline.Result) (t : Transcript) :
    (t.reporting compact results).after (render compact x) x.success =
      t.reporting compact (x :: results) := by
  simp only [after, reporting, List.map_cons, List.cons_append, List.all_cons,
    Bool.not_and, Bool.or_assoc]

theorem Transcript.output_reporting (compact : Bool)
    (results : List Pipeline.Result) (t : Transcript) :
    (t.reporting compact results).output =
      String.join (results.map fun x => render compact x ++ "\n") ++
        t.output := by
  rw [output, reporting, List.map_append, String.join_append, List.map_map]
  rfl

theorem reportFiles_append (compact : Bool)
    {run : String → Except Trouble Pipeline.Result} {before : List String}
    {results : List Pipeline.Result}
    (h : List.Forall₂ (fun path x => run path = .ok x) before results)
    (after : List String) :
    reportFiles compact run (before ++ after) =
      (reportFiles compact run after).reporting compact results := by
  induction h with
  | nil => rfl
  | cons hrun _ ih =>
      rw [List.cons_append, reportFiles, hrun]
      simp only [ih, Transcript.after_reporting]

theorem reportFiles_of_error {compact : Bool}
    {run : String → Except Trouble Pipeline.Result} {path : String} {t : Trouble}
    (h : run path = .error t) (rest : List String) :
    reportFiles compact run (path :: rest) = Transcript.stopped t := by
  rw [reportFiles, h]

/-! ## The program -/

/-- What can be relied on when a program is run on lists of files. -/
structure Reported (comes : String → Pipeline.Result → Prop)
    (stops : String → Prop) (compact : Bool) (exit : List String → Exit) :
    Prop where
  /-- There are no lists of files but those that are spoken of below. -/
  covered : ∀ files, (∃ results, List.Forall₂ comes files results) ∨
    ∃ before path after results, files = before ++ path :: after ∧
      List.Forall₂ comes before results ∧ stops path
  /-- One result for each file, in their order; the exit code says whether all
  of them are valid. -/
  all : ∀ files results, List.Forall₂ comes files results →
    (exit files).output =
      String.join (results.map fun x => render compact x ++ "\n") ∧
    (exit files).code = if results.all (·.success) then 0 else 1
  /-- The results before the first file that stops the program, whatever they
  are, and nothing after them. -/
  stopped : ∀ before path after results, List.Forall₂ comes before results →
    stops path →
    (exit (before ++ path :: after)).output =
      String.join (results.map fun x => render compact x ++ "\n") ∧
    (exit (before ++ path :: after)).code = 2
  /-- What is printed for a file is what is printed for it alone. -/
  alone : ∀ before path after, (∀ p ∈ before, ∃ x, comes p x) →
    (∃ x, comes path x) →
    (exit (before ++ path :: after)).output =
      (exit before).output ++ (exit [path]).output ++ (exit after).output

section

variable (w : Surroundings) (r : Registry σ κ) (v : Validator κ) (compact : Bool)

theorem output_append {before : List String} {results : List Pipeline.Result}
    (h : List.Forall₂ (Comes w r v) before results) (after : List String) :
    (reportFiles compact (runFile w r v) (before ++ after)).output =
      String.join (results.map fun x => render compact x ++ "\n") ++
        (reportFiles compact (runFile w r v) after).output := by
  rw [reportFiles_append compact (h.imp fun _ _ hx => hx.runFile),
    Transcript.output_reporting]

theorem output_of_comes {files : List String} {results : List Pipeline.Result}
    (h : List.Forall₂ (Comes w r v) files results) :
    (reportFiles compact (runFile w r v) files).output =
      String.join (results.map fun x => render compact x ++ "\n") := by
  have happend := output_append w r v compact h []
  rw [List.append_nil] at happend
  rw [happend]
  exact String.append_empty

theorem forall₂_of_exists {files : List String}
    (h : ∀ p ∈ files, ∃ x, Comes w r v p x) :
    ∃ results, List.Forall₂ (Comes w r v) files results := by
  rcases comes_or_stops w r v files with hall |
    ⟨before, path, after, results, rfl, -, hstops⟩
  · exact hall
  · obtain ⟨x, hx⟩ := h path (List.mem_append_right _ List.mem_cons_self)
    exact absurd hstops hx.not_stops

theorem reported_of_reportFiles :
    Reported (Comes w r v) (Stops w r v) compact fun files =>
      Exit.ofTranscript (reportFiles compact (runFile w r v) files) where
  covered := comes_or_stops w r v
  all files results h := by
    refine ⟨output_of_comes w r v compact h, ?_⟩
    have hruns := reportFiles_append compact
      (h.imp fun _ _ hx => hx.runFile) []
    rw [List.append_nil] at hruns
    rw [hruns]
    simp only [Exit.ofTranscript, Transcript.exitCode, Transcript.reporting,
      reportFiles, Transcript.empty, Bool.or_false]
    cases results.all (·.success) <;> rfl
  stopped before path after results h hstops := by
    obtain ⟨t, ht⟩ := hstops.runFile
    have hruns := reportFiles_append compact
      (h.imp fun _ _ hx => hx.runFile) (path :: after)
    rw [reportFiles_of_error ht] at hruns
    rw [hruns]
    refine ⟨?_, rfl⟩
    simp only [Exit.ofTranscript, Transcript.output_reporting]
    exact String.append_empty
  alone before path after hbefore hpath := by
    obtain ⟨results, hresults⟩ := forall₂_of_exists w r v hbefore
    obtain ⟨x, hx⟩ := hpath
    have hone : List.Forall₂ (Comes w r v) [path] [x] := .cons hx .nil
    simp only [Exit.ofTranscript]
    rw [output_append w r v compact hresults,
      ← List.singleton_append (x := path), output_append w r v compact hone,
      output_of_comes w r v compact hresults,
      output_of_comes w r v compact hone, String.append_assoc]

end

theorem reported_of_compileFile {w : Surroundings} {r r' : Registry σ κ}
    {o : ValidateOptions} {v : Validator κ}
    (h : compileFile w r o.schema = .ok (v, r')) :
    Reported (Comes w r' v) (Stops w r' v) o.compact fun files =>
      Exit.ofTranscript (validate w r { o with data := files }) := by
  have hvalidate (files : List String) : validate w r { o with data := files } =
      reportFiles o.compact (runFile w r' v) files := by
    rw [validate, h]
  simp only [hvalidate]
  exact reported_of_reportFiles w r' v o.compact

/-- The program runs a validation as `validate` does, with the registry of its
configuration. -/
theorem answer_validate {w : Surroundings} {i : Invocation} {o : ValidateOptions}
    {c : Config} {r : Registry Settings (DocumentContext Standard.judge)}
    (htask : i.task = .validate o)
    (hconfig : Config.load w.files w.environment i.config = .ok c)
    (hopen : openRegistry (o.apply c) = .ok r) :
    answer w (.run i) = Exit.ofTranscript (validate w r o) := by
  rw [answer, runInvocation, hconfig]
  simp only [htask, runTask, hopen]

/-- Once its schema is compiled, `validate` reports its files one by one. The
first part is about the program with its own engine, the second about any engine. -/
theorem validate_reports_each (w : Surroundings) :
    (∀ (i : Invocation) (o : ValidateOptions) (c : Config)
      (r r' : Registry Settings (DocumentContext Standard.judge))
      (v : Validator (DocumentContext Standard.judge)),
      Config.load w.files w.environment i.config = .ok c →
      openRegistry (o.apply c) = .ok r →
      compileFile w r o.schema = .ok (v, r') →
      Reported (Comes w r' v) (Stops w r' v) o.compact fun files =>
        answer w (.run { i with task := .validate { o with data := files } })) ∧
    ∀ {σ κ : Type} [SchemaContext κ] (r r' : Registry σ κ) (o : ValidateOptions)
      (v : Validator κ), compileFile w r o.schema = .ok (v, r') →
      Reported (Comes w r' v) (Stops w r' v) o.compact fun files =>
        Exit.ofTranscript (validate w r { o with data := files }) := by
  refine ⟨fun i o c r r' v hconfig hopen hcompile => ?_,
    fun r r' o v hcompile => reported_of_compileFile hcompile⟩
  have hanswer (files : List String) :
      answer w (.run { i with task := .validate { o with data := files } }) =
        Exit.ofTranscript (validate w r { o with data := files }) :=
    answer_validate (o := { o with data := files }) rfl hconfig hopen
  simp only [hanswer]
  exact reported_of_compileFile hcompile

/-- Two files, and a file that is not there. -/
def shelf : Surroundings :=
  ⟨Files.ofList [("schema", "null"), ("data", "true")], .empty, .unreachable, ⟨1, 1⟩⟩

/-- A registry that accepts every schema and finds fault with every value. -/
def refusing : Registry Scripted.State Scripted.Context :=
  .new Config.withoutTransforms
    (Scripted.compiler ⟨[.ready], [], [⟨"", "no"⟩], false⟩) .start

/-- The line of the invalid file is printed, and the code is that of the missing one. -/
theorem validate_reports_each_missing :
    (Exit.ofTranscript (validate shelf refusing
      ⟨"schema", ["data", "none", "data"], false, false, false, none, true⟩)).output =
      "\x7b\"data\":true,\"success\":false,\"errors\":[\" no\"]\x7d\n" ∧
    (Exit.ofTranscript (validate shelf refusing
      ⟨"schema", ["data", "none", "data"], false, false, false, none, true⟩)).code = 2 := by
  have hload : loadValue shelf.files "schema" = .ok .null := rfl
  have hcompile : compileFile shelf refusing "schema" =
      .ok (⟨.null, ⟨.null, [], ⟨[⟨"", "no"⟩]⟩, false⟩⟩,
        (refusing.compile shelf.network shelf.limits.calls .null).registry) := by
    rw [compileFile, hload]
    rfl
  have hreported := (validate_reports_each shelf).2 refusing _
    ⟨"schema", [], false, false, false, none, true⟩ _ hcompile
  refine hreported.stopped ["data"] "none" ["data"]
    [.invalid (.bool true) [" no"]] (.cons ?_ .nil) ?_
  · exact ⟨.bool true, rfl, rfl⟩
  · exact .inl ⟨.load (.unreadable "none"), rfl⟩

end SchemaPipeline.Command
