import SchemaPipeline.Engine.Context
import SchemaPipeline.Reference.Uri

/-!
# Resolving references

The document part of a reference selects a context, an empty one the context at hand; the fragment
then selects a schema within it. What is written inside the schema is to be resolved in the context
that was selected.
-/

namespace SchemaPipeline

inductive ReferenceError where
  | unknownDocument (reference : String)
  | unknownFragment (reference fragment : String)
deriving DecidableEq, Repr

namespace ReferenceError

def message : ReferenceError → String
  | .unknownDocument reference => "reference '" ++ reference ++ "' names an unknown document"
  | .unknownFragment reference fragment =>
    "reference '" ++ reference ++ "' has no target for fragment '#" ++ fragment ++ "'"

end ReferenceError

namespace Reference

structure Target (κ : Type) where
  context : κ
  schema : Value

variable {κ : Type} [SchemaContext κ]

/-- The context that a document part selects. -/
def select (context : κ) (document : String) : Option κ :=
  if document.isEmpty then some context else SchemaContext.document context document

/-- The target of a reference within a context. -/
def resolveIn (reference : String) (context : κ) : Except ReferenceError (Target κ) :=
  let (document, fragment) := split reference
  match select context document with
  | none => .error (.unknownDocument reference)
  | some target =>
    match SchemaContext.fragment target fragment with
    | none => .error (.unknownFragment reference fragment)
    | some schema => .ok ⟨target, schema⟩

/-- The target of a reference; without a context there is none. -/
def resolve (reference : String) : Option κ → Except ReferenceError (Option (Target κ))
  | none => .ok none
  | some context => (resolveIn reference context).map some

end Reference

end SchemaPipeline
