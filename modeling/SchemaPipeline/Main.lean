import SchemaPipeline.Command.Run

/-!
# The program

Reads what the command line names, runs the program on it, and prints what comes out. Nothing is
fetched: to the program the web is out of reach.
-/

namespace SchemaPipeline.Command

/-- The files that a request may look at. -/
def pathsOf : Request → List String
  | .run i =>
    i.config.toList ++
      match i.task with
      | .validate o => o.schema :: o.data
      | .check schemas => schemas
  | _ => []

def readPath (path : String) : IO (Option (String × String)) := do
  try
    let text ← IO.FS.readFile path
    pure (some (path, text))
  catch _ => pure none

def readVariable (name : String) : IO (Option (String × Utf8.Bytes)) := do
  let text ← IO.getEnv name
  pure (text.map fun t => (name, t.toUTF8.toList))

/-- Runs the program on what is really there. -/
def execute (args : List String) : IO UInt32 := do
  let paths :=
    match Request.ofArguments args with
    | .ok request => pathsOf request
    | .error _ => []
  let texts ← paths.filterMapM readPath
  let bindings ← Config.variableNames.filterMapM readVariable
  let surroundings : Surroundings :=
    { files := fun path => texts.lookup path
      environment := ⟨bindings⟩
      network := Network.unreachable
      limits := Limits.default }
  let exit := run surroundings args
  (← IO.getStdout).putStr exit.output
  match exit.complaint with
  | some text => (← IO.getStderr).putStrLn text
  | none => pure ()
  pure exit.code.toUInt32

end SchemaPipeline.Command

def main (args : List String) : IO UInt32 := SchemaPipeline.Command.execute args
