import SchemaPipeline.Command.Invocation
import SchemaPipeline.Command.Transcript
import SchemaPipeline.Json.Writer

/-!
# Validating files

One schema is compiled, and then each data file is run through its pipeline, in the order of the
command line. A result is printed as soon as it is there, so a file that gives trouble takes nothing
back; a file that is invalid is a result, and the next one follows.
-/

namespace SchemaPipeline

namespace Pipeline.Result

/-- A result as a value. Errors are a member only if there are some. -/
def toValue (r : Result) : Value :=
  .object ([("data", r.data), ("success", .bool r.success)] ++
    (r.errors.map fun es => ("errors", Value.ofStrings es)).toList)

end Pipeline.Result

namespace Command

/-- How far the program goes before it gives up: the calls of the compiler for one schema, and the
depth of a walk. -/
structure Limits where
  calls : Nat
  depth : Nat

/-- Far more than any schema and any value needs that can be worked through at all. -/
def Limits.default : Limits := ⟨10000, 10000⟩

/-- What a program finds around it. -/
structure Surroundings where
  files : Files
  environment : Environment
  network : Network
  limits : Limits

namespace ValidateOptions

/-- The configuration as the options change it. -/
def apply (o : ValidateOptions) (c : Config) : Config :=
  { c with
    useDefaults := c.useDefaults && !o.noDefaults
    fillUndefined := c.fillUndefined && !o.noFill
    validateFormats := c.validateFormats && !o.noFormats
    draft := o.draft.getD c.draft }

end ValidateOptions

def render (compact : Bool) (r : Pipeline.Result) : String :=
  if compact then Json.compact r.toValue else Json.pretty r.toValue

/-- Runs files one after the other until one of them gives trouble. -/
def reportFiles (compact : Bool) (runFile : String → Except Trouble Pipeline.Result) :
    List String → Transcript
  | [] => Transcript.empty
  | path :: rest =>
    match runFile path with
    | .error t => Transcript.stopped t
    | .ok r => (reportFiles compact runFile rest).after (render compact r) r.success

def loadValue (files : Files) (path : String) : Except Trouble Value :=
  (files.load Value.decode path).mapError .load

variable {σ κ : Type} [SchemaContext κ]

/-- The result for a data file. -/
def runFile (w : Surroundings) (r : Registry σ κ) (v : Validator κ) (path : String) :
    Except Trouble Pipeline.Result := do
  let data ← loadValue w.files path
  match (r.validate v w.limits.depth data).result with
  | .ok result => .ok result
  | .error (.error e) => .error (.pipeline path e)
  | .error .exhausted => .error (.unfinished path)

/-- The validator for the schema of a file, and the registry after it was compiled. -/
def compileFile (w : Surroundings) (r : Registry σ κ) (path : String) :
    Except Trouble (Validator κ × Registry σ κ) := do
  let schema ← loadValue w.files path
  let c := r.compile w.network w.limits.calls schema
  match c.result with
  | some (.ok v) => .ok (v, c.registry)
  | some (.error e) => .error (.compile path e)
  | none => .error (.unfinished path)

/-- Validates the data files of the options. -/
def validate (w : Surroundings) (r : Registry σ κ) (o : ValidateOptions) : Transcript :=
  match compileFile w r o.schema with
  | .error t => Transcript.stopped t
  | .ok (v, r) => reportFiles o.compact (runFile w r v) o.data

end Command

end SchemaPipeline
