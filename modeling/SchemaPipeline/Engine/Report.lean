import SchemaPipeline.Pointer

/-!
# Reports

What a validation has to say about a value: the violated constraints in the order in which they
were found, each with the place in the value. An outcome adds whether the answer had to wait for
formats that are checked elsewhere, and which questions were put to them.
-/

namespace SchemaPipeline

structure Violation where
  path : String
  message : String
deriving DecidableEq, Repr

namespace Violation

/-- The path and the message with a space between. -/
def text (v : Violation) : String := v.path ++ " " ++ v.message

end Violation

structure Report where
  violations : List Violation
deriving DecidableEq, Repr

namespace Report

def empty : Report := ⟨[]⟩

def size (r : Report) : Nat := r.violations.length

def isValid (r : Report) : Bool := r.violations.isEmpty

def push (r : Report) (v : Violation) : Report := ⟨r.violations ++ [v]⟩

def errors (r : Report) : List String := r.violations.map Violation.text

end Report

/-- A question to a format: its name and the string. -/
structure FormatQuery where
  format : String
  data : String
deriving DecidableEq, Repr

structure Outcome where
  deferred : Bool
  report : Report
  asked : List FormatQuery
deriving Repr

end SchemaPipeline
