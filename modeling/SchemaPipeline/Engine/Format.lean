import SchemaPipeline.Engine.Report

/-!
# Formats

A format names a check of strings. The answer of a check is there at once or still pending. A
format that announces pending answers is asynchronous: it is asked outside of the engine. One that
does not, but leaves an answer pending all the same, has failed the string.

A check may also have an answer at once and have waited for it on the way, for a validation of its
own. A format should announce that too; what comes of it if it does not is said with the sessions.
-/

namespace SchemaPipeline

inductive FormatAnswer where
  | ready (verdict : Bool)
  | pending (verdict : Bool)
  | awaited (verdict : Bool)
deriving DecidableEq, Repr

namespace FormatAnswer

/-- The verdict that an answer comes to. -/
def verdict : FormatAnswer → Bool
  | .ready b => b
  | .pending b => b
  | .awaited b => b

/-- The verdict at once; an answer that is not there yet is a refusal. -/
def now : FormatAnswer → Bool
  | .ready b => b
  | .pending _ => false
  | .awaited b => b

end FormatAnswer

structure Format where
  name : String
  isAsync : Bool
  check : String → FormatAnswer

namespace Format

/-- The formats with one more, which takes the place of any of its name. -/
def register (formats : List Format) (f : Format) : List Format :=
  formats.filter (·.name != f.name) ++ [f]

def find? (formats : List Format) (name : String) : Option Format :=
  formats.find? (·.name == name)

/-! ## Elementary checks -/

/-- Checks that need no table. -/
inductive Elementary where
  | always
  | never
  | evenBytes
  | digits
  | equals (text : String)
  | startsWith (text : String)

def startsWith : List Char → List Char → Bool
  | [], _ => true
  | a :: as, b :: bs => a == b && startsWith as bs
  | _ :: _, [] => false

namespace Elementary

def holds (e : Elementary) (s : String) : Bool :=
  match e with
  | .always => true
  | .never => false
  | .evenBytes => s.utf8ByteSize % 2 == 0
  | .digits => s.toList.all Char.isDigit
  | .equals t => s == t
  | .startsWith t => Format.startsWith t.toList s.toList

end Elementary

end Format

end SchemaPipeline
