import SchemaPipeline.Command.Validate

/-!
# Checking schemas

Schemas are compiled one after the other in one registry, so what was fetched for one is there for
the next. A schema that does not compile is reported and the next one follows; the last line counts
those that do.
-/

namespace SchemaPipeline.Command

variable {σ κ : Type} [SchemaContext κ]

/-- What is found out about schemas: for each one the error, if it has one, until one of them gives
trouble. -/
structure Findings where
  verdicts : List (String × Option CompileError)
  trouble : Option Trouble

/-- The error of a schema, and the registry after it was compiled. -/
def checkFile (w : Surroundings) (r : Registry σ κ) (path : String) :
    Except Trouble (Option CompileError × Registry σ κ) := do
  let schema ← loadValue w.files path
  let c := r.compile w.network w.limits.calls schema
  match c.result with
  | some (.ok _) => .ok (none, c.registry)
  | some (.error e) => .ok (some e, c.registry)
  | none => .error (.unfinished path)

def findings (w : Surroundings) : Registry σ κ → List String → Findings
  | _, [] => ⟨[], none⟩
  | r, path :: rest =>
    match checkFile w r path with
    | .error t => ⟨[], some t⟩
    | .ok (e, r) =>
      let f := findings w r rest
      { f with verdicts := (path, e) :: f.verdicts }

namespace Findings

def passed (f : Findings) : Nat := f.verdicts.countP fun v => v.2.isNone

def verdictLine : String × Option CompileError → String
  | (path, none) => "OK: " ++ path
  | (path, some e) => "FAIL: " ++ path ++ ": " ++ e.message

def countLine (f : Findings) : String :=
  "Schemas: " ++ toString f.passed ++ "/" ++ toString f.verdicts.length ++ " compiled"

/-- A line for each verdict, and the count if there was no trouble. -/
def transcript (f : Findings) : Transcript :=
  { lines := f.verdicts.map verdictLine ++ (if f.trouble.isNone then [f.countLine] else [])
    failed := f.passed < f.verdicts.length
    trouble := f.trouble }

end Findings

/-- Checks schemas. -/
def check (w : Surroundings) (r : Registry σ κ) (schemas : List String) : Transcript :=
  (findings w r schemas).transcript

end SchemaPipeline.Command
