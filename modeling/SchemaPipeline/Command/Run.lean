import SchemaPipeline.Command.Arguments
import SchemaPipeline.Command.Check
import SchemaPipeline.Command.Help
import SchemaPipeline.Validation.Standard

/-!
# Running the program

From the arguments to what is printed and the exit code. The registry judges by JSON Schema and has
no formats beyond the standard ones.
-/

namespace SchemaPipeline

namespace Registry

/-- The registry of a configuration. -/
def standard (c : Config) : Registry Settings (DocumentContext Standard.judge) :=
  new c Standard.judge.compiler (Settings.ofConfig c)

end Registry

namespace Command

/-- A registry, unless the configuration has a user agent that no request could carry. -/
def openRegistry (c : Config) :
    Except Trouble (Registry Settings (DocumentContext Standard.judge)) :=
  if c.hasValidUserAgent then .ok (Registry.standard c) else .error (.userAgent c.userAgent)

def runTask (w : Surroundings) (c : Config) : Task → Transcript
  | .validate o =>
    match openRegistry (o.apply c) with
    | .error t => Transcript.stopped t
    | .ok r => validate w r o
  | .check schemas =>
    match openRegistry c with
    | .error t => Transcript.stopped t
    | .ok r => check w r schemas

/-- Runs an invocation under the configuration that it says, or that of the environment. -/
def runInvocation (w : Surroundings) (i : Invocation) : Transcript :=
  match Config.load w.files w.environment i.config with
  | .error e => Transcript.stopped (.config e)
  | .ok c => runTask w c i.task

/-- What the program leaves behind. -/
structure Exit where
  code : Nat
  output : String
  complaint : Option String
deriving Repr

def Exit.ofTranscript (t : Transcript) : Exit :=
  ⟨t.exitCode, t.output, t.trouble.map Trouble.message⟩

def Exit.ofLines (lines : List String) : Exit := ⟨0, String.join (lines.map (· ++ "\n")), none⟩

/-- Answers a request. -/
def answer (w : Surroundings) : Request → Exit
  | .run i => Exit.ofTranscript (runInvocation w i)
  | .help about => Exit.ofLines (helpLines about)
  | .version => Exit.ofLines [versionText]

/-- Runs the program. A command line that asks for nothing is trouble. -/
def run (w : Surroundings) (args : List String) : Exit :=
  match Request.ofArguments args with
  | .ok request => answer w request
  | .error e => ⟨2, "", some e.message⟩

end Command

end SchemaPipeline
