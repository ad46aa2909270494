import SchemaPipeline.Documents
import SchemaPipeline.Engine.Format

/-!
# Contexts

A context is a compiled document as the rest of the library sees it: the document, a judgment on
values, the fragments of the document, and the other documents that can be reached from it. Nothing
else is assumed of it, so what is proved over `SchemaContext` holds for every way to compile.

A compiler turns a schema and a table of documents into a context, or says what is in the way:
documents that are missing, or a fault of the schema itself. It may keep a state from call to call.
-/

namespace SchemaPipeline

class SchemaContext (κ : Type) where
  schema : κ → Value
  validate : κ → Value → Outcome
  fragment : κ → String → Option Value
  document : κ → String → Option κ

/-- The contexts of a walk that has none. -/
instance : SchemaContext Empty where
  schema := nofun
  validate := nofun
  fragment := nofun
  document := nofun

inductive EngineError where
  | missing (uris : List String)
  | invalid (reason : String)
deriving DecidableEq, Repr

namespace EngineError

def message : EngineError → String
  | .missing uris => "missing referenced schemas: " ++ ", ".intercalate uris
  | .invalid reason => "invalid schema: " ++ reason

end EngineError

/-- A compiler with a state `σ` and contexts `κ`. -/
structure Compiler (σ κ : Type) where
  compile : Value → Documents → σ → Except EngineError κ × σ
  register : Format → σ → σ

end SchemaPipeline
