import SchemaPipeline.Registry.Compile

/-!
# Pipelines

A value runs through the transforms before the validation, the validation, and, if it is valid, the
transforms after it. Invalid data is a result like any other; only transforms that cannot be ordered
or that fail are errors. Each stage runs the transforms that are there when it begins, each of them
to the same depth.
-/

namespace SchemaPipeline

inductive PipelineError where
  | order (error : AgendaError)
  | transform (stage : Stage) (name : String) (source : TransformError)
deriving DecidableEq, Repr

namespace PipelineError

def message : PipelineError → String
  | .order e => "cannot order transforms: " ++ e.message
  | .transform stage name source =>
    stage.name ++ " transform '" ++ name ++ "' failed: " ++ source.message

end PipelineError

namespace Pipeline

/-- What a run comes to. Only a failed validation has errors. -/
structure Result where
  data : Value
  success : Bool
  errors : Option (List String)

def Result.valid (data : Value) : Result := ⟨data, true, none⟩

def Result.invalid (data : Value) (errors : List String) : Result := ⟨data, false, some errors⟩

/-- Why a run has no result. -/
inductive Stop where
  | error (e : PipelineError)
  | exhausted

/-- The walk of one transform. -/
structure Pass where
  stage : Stage
  name : String
  trace : Walk.Trace

variable {κ : Type} [SchemaContext κ]

/-- Walks transforms through a value, one after the other. -/
def runVisitors (v : Validator κ) (depth : Nat) (stage : Stage) :
    List Visitor → Value → List Pass × Except Stop Value
  | [], data => ([], .ok data)
  | t :: rest, data =>
    let (trace, result) := Walk.run t depth data (some v.schema) (some v.context)
    let pass : Pass := ⟨stage, t.name, trace⟩
    match result with
    | .error (.failure e) => ([pass], .error (.error (.transform stage t.name e)))
    | .error .exhausted => ([pass], .error .exhausted)
    | .ok data =>
      let (passes, result) := runVisitors v depth stage rest data
      (pass :: passes, result)

/-- Runs a stage on a value. -/
def runStage (v : Validator κ) (depth : Nat) (stage : Stage) (transforms : Agenda Visitor)
    (data : Value) : List Pass × Except Stop Value :=
  match transforms.schedule with
  | .error e => ([], .error (.error (.order e)))
  | .ok tasks => runVisitors v depth stage (tasks.map Task.item) data

/-- A run with the walks it made and the outcome of the validation, if it came to one. -/
structure Run where
  passes : List Pass
  outcome : Option Outcome
  result : Except Stop Result

/-- Runs the pipeline on a value. -/
def run (v : Validator κ) (depth : Nat) (pre post : Agenda Visitor) (data : Value) : Run :=
  match runStage v depth .pre pre data with
  | (passes, .error e) => ⟨passes, none, .error e⟩
  | (passes, .ok data) =>
    let outcome := SchemaContext.validate v.context data
    if outcome.report.isValid then
      let (more, result) := runStage v depth .post post data
      ⟨passes ++ more, some outcome, result.map Result.valid⟩
    else ⟨passes, some outcome, .ok (Result.invalid data outcome.report.errors)⟩

end Pipeline

/-- Runs the pipeline of a registry. -/
def Registry.validate {σ κ : Type} [SchemaContext κ] (r : Registry σ κ) (v : Validator κ)
    (depth : Nat) (data : Value) : Pipeline.Run :=
  Pipeline.run v depth r.pre r.post data

end SchemaPipeline
