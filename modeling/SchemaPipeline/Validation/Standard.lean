import SchemaPipeline.Validation.Judgment
import SchemaPipeline.Validation.Metaschema

/-!
# The standard judge

Judges by JSON Schema. A schema is first gathered into a library with all that it refers to, then
held against the metaschema of its draft, and then made into a plan; what comes through has a
verdict on every value.
-/

namespace SchemaPipeline.Standard

/-- The draft of a schema: the one that is set, the one it says it is written in, or the latest. A
draft under an unknown name is that of the document which has this name. -/
def draftFor (terms : Terms) (source : Library.Source) (schema : Value) :
    Except SchemaError Draft :=
  match terms.draft with
  | some d => .ok d
  | none =>
    match Draft.draft202012.detect schema with
    | .error (.unknownDraft name _) =>
      match Uri.ofId name with
      | .error e => .error e
      | .ok uri =>
        let key := Reference.normalize uri.text
        match source key with
        | some document => Draft.draft202012.detect document
        | none => .error (.unknownDraft name (some key))
    | other => other

/-- Refuses a schema that its metaschema does not accept. -/
def checkSchema (d : Draft) (schema : Value) : Except SchemaError Unit :=
  let trial : Trial := ⟨Metaschema.plan d, schema, Pointer.root⟩
  match trial.violations.run fun _ => true with
  | [] => .ok ()
  | v :: _ => .error (.rejected v.message)

/-- The plan of a schema. -/
def prepare (terms : Terms) (source : Library.Source) (schema : Value) :
    Except SchemaError Plan := do
  let draft ← draftFor terms source schema
  let base ←
    match draft.id? schema with
    | some id => Uri.ofId id
    | none => .ok Uri.rootBase
  let library ← Metaschema.library.extend source base ⟨schema, draft⟩
  checkSchema draft schema
  let scope : Scope := ⟨base, [], draft, Vocabulary.ofSchema library draft schema⟩
  Plan.ofSite library terms ⟨schema, ← scope.enter schema⟩

def judge : Judge where
  compile terms known schema :=
    match prepare terms known.find? schema with
    | .error e => .error ⟨e.message, e.missing?.toList⟩
    | .ok plan =>
      .ok fun v => do
        let trial : Trial := ⟨plan, v, Pointer.root⟩
        pure ⟨← trial.violations⟩

end SchemaPipeline.Standard
