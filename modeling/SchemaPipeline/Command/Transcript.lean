import SchemaPipeline.Load
import SchemaPipeline.Pipeline.Basic

/-!
# Transcripts

What a run of the program shows: the lines it prints, whether something that it looked at did not
pass, and the trouble that it stopped for, if any. The exit code says which: 2 for trouble, else 1
if something did not pass, else 0.
-/

namespace SchemaPipeline.Command

/-- What keeps the program from going on. -/
inductive Trouble where
  | load (error : LoadError)
  | config (error : Config.SourceError)
  | userAgent (text : String)
  | compile (path : String) (error : CompileError)
  | pipeline (path : String) (error : PipelineError)
  | unfinished (path : String)
deriving Repr

namespace Trouble

def message : Trouble → String
  | .load e => e.message
  | .config e => e.message
  | .userAgent t => "failed to create schema registry: the user agent '" ++ t ++ "' cannot be sent"
  | .compile path e => "failed to compile schema " ++ path ++ ": " ++ e.message
  | .pipeline path e => "pipeline failed for " ++ path ++ ": " ++ e.message
  | .unfinished path => "gave up on " ++ path

end Trouble

structure Transcript where
  lines : List String
  failed : Bool
  trouble : Option Trouble
deriving Repr

namespace Transcript

def empty : Transcript := ⟨[], false, none⟩

def stopped (t : Trouble) : Transcript := ⟨[], false, some t⟩

/-- The transcript that begins with something that was looked at. -/
def after (line : String) (passed : Bool) (t : Transcript) : Transcript :=
  { t with lines := line :: t.lines, failed := !passed || t.failed }

def exitCode (t : Transcript) : Nat :=
  match t.trouble with
  | some _ => 2
  | none => if t.failed then 1 else 0

/-- The text that is printed. Every line is ended. -/
def output (t : Transcript) : String := String.join (t.lines.map (· ++ "\n"))

end Transcript

end SchemaPipeline.Command
