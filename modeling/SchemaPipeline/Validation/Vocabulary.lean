import SchemaPipeline.Validation.Library

/-!
# Vocabularies

From 2019-09 on the keywords are divided into vocabularies, and a metaschema lists those that its
schemas use. The metaschema of a draft lists all of its draft. One that is not of a draft is found
in the library under its name, and lists the vocabularies that it holds `true` for.

Only two vocabularies have keywords that are left aside where they are not used.
-/

namespace SchemaPipeline

inductive Vocabulary where
  /-- The keywords that apply schemas. -/
  | applicator
  /-- The keywords that ask for something of a value itself. -/
  | validation
deriving DecidableEq, Repr

namespace Vocabulary

def all : List Vocabulary := [.applicator, .validation]

/-- The names of a vocabulary, one for each draft that has vocabularies. -/
def names : Vocabulary → List String
  | .applicator =>
    ["https://json-schema.org/draft/2020-12/vocab/applicator",
      "https://json-schema.org/draft/2019-09/vocab/applicator"]
  | .validation =>
    ["https://json-schema.org/draft/2020-12/vocab/validation",
      "https://json-schema.org/draft/2019-09/vocab/validation"]

def ofName? (name : String) : Option Vocabulary := all.find? fun v => v.names.contains name

/-- The vocabulary of a keyword that can be left aside. -/
def ofKeyword? : String → Option Vocabulary
  | "additionalProperties" | "allOf" | "anyOf" | "contains" | "dependentSchemas" | "if" | "items"
  | "not" | "oneOf" | "patternProperties" | "prefixItems" | "properties" | "propertyNames" =>
    some .applicator
  | "const" | "dependentRequired" | "enum" | "exclusiveMaximum" | "exclusiveMinimum" | "maxItems"
  | "maxLength" | "maxProperties" | "maximum" | "minItems" | "minLength" | "minProperties"
  | "minimum" | "multipleOf" | "pattern" | "required" | "type" | "uniqueItems" =>
    some .validation
  | _ => none

/-- The vocabularies of a draft. -/
def ofDraft (d : Draft) : List Vocabulary := if d.isLegacy then [] else all

/-- The vocabularies that a metaschema lists, if it has a list and all names in it are URIs. -/
def ofMetaschema? (document : Value) : Option (List Vocabulary) := do
  let entries ← (document.get? "$vocabulary").bind Value.members?
  let used := entries.filter fun e => e.2 matches .bool true
  let uris ← used.mapM fun e => (Uri.ofId e.1).toOption
  pure (uris.filterMap fun uri => ofName? uri.text)

/-- The vocabularies that a schema uses. One that does not say so uses those of the draft it is read
in. -/
def ofSchema (l : Library) (d : Draft) (schema : Value) : List Vocabulary :=
  match d.detect schema with
  | .ok found => ofDraft found
  | .error (.unknownDraft name _) =>
    let document := (Uri.ofId name).toOption.bind l.find?
    (document.bind fun r => ofMetaschema? r.contents).getD (ofDraft d)
  | .error _ => ofDraft d

end Vocabulary

end SchemaPipeline
