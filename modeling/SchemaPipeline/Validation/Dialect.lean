import SchemaPipeline.Schema.Draft
import SchemaPipeline.Validation.SchemaError

/-!
# Dialects

What the drafts disagree on: how a schema names itself, its anchors, and which keywords hold
schemas.
-/

namespace SchemaPipeline.Draft

/-! ## Metaschemas -/

/-- The name of the metaschema of a draft. -/
def metaschema : Draft → String
  | .draft4 => "http://json-schema.org/draft-04/schema"
  | .draft6 => "http://json-schema.org/draft-06/schema"
  | .draft7 => "http://json-schema.org/draft-07/schema"
  | .draft201909 => "https://json-schema.org/draft/2019-09/schema"
  | .draft202012 => "https://json-schema.org/draft/2020-12/schema"

/-- A text without the number signs at its end. -/
def dropHashes (s : String) : String :=
  String.ofList (s.toList.reverse.dropWhile (· == '#')).reverse

def ofMetaschema? (name : String) : Option Draft :=
  all.find? fun d => d.metaschema == dropHashes name

/-- The draft that a schema says it is written in, or the one given. -/
def detect (d : Draft) (schema : Value) : Except SchemaError Draft :=
  match (schema.get? "$schema").bind Value.string? with
  | none => .ok d
  | some name =>
    match ofMetaschema? name with
    | some found => .ok found
    | none => .error (.unknownDraft (dropHashes name) none)

/-- As `detect`, where a schema of an unknown draft is taken for one of the latest. -/
def detectLeniently (d : Draft) (schema : Value) : Draft :=
  match d.detect schema with
  | .ok found => found
  | .error _ => .draft202012

/-! ## Names -/

def isLegacy (d : Draft) : Bool := !d.since .draft201909

def idKeyword : Draft → String
  | .draft4 => "id"
  | _ => "$id"

def startsWithHash (s : String) : Bool := s.toList.head? == some '#'

/-- The identifier of a schema. Up to draft 7 a reference hides it, and one that is only a fragment
is an anchor instead. -/
def id? (d : Draft) (schema : Value) : Option String :=
  match (schema.get? d.idKeyword).bind Value.string? with
  | none => none
  | some id =>
    if d.isLegacy && ((schema.get? "$ref").isSome || startsWithHash id) then none
    else some (dropHashes id)

/-- An anchor with the question whether it is one that outer resources can replace. -/
structure AnchorName where
  name : String
  dynamic : Bool

def anchorUnder (schema : Value) (key : String) (dynamic : Bool) : List AnchorName :=
  (((schema.get? key).bind Value.string?).map (⟨·, dynamic⟩)).toList

/-- The anchors that a schema declares. -/
def anchors (d : Draft) (schema : Value) : List AnchorName :=
  match d with
  | .draft202012 =>
    anchorUnder schema "$anchor" false ++ anchorUnder schema "$dynamicAnchor" true
  | .draft201909 => anchorUnder schema "$anchor" false
  | _ =>
    match ((schema.get? d.idKeyword).bind Value.string?).map String.toList with
    | some ('#' :: name) => [⟨String.ofList name, false⟩]
    | _ => []

/-! ## Schemas inside a schema -/

/-- The keywords with one schema. -/
def valueKeywords : Draft → List String
  | .draft4 => ["additionalItems", "additionalProperties", "items", "not"]
  | .draft6 =>
    ["additionalItems", "additionalProperties", "contains", "items", "not", "propertyNames"]
  | .draft7 =>
    ["additionalItems", "additionalProperties", "contains", "else", "if", "items", "not",
      "propertyNames", "then"]
  | .draft201909 =>
    ["additionalItems", "additionalProperties", "contains", "contentSchema", "else", "if", "items",
      "not", "propertyNames", "then", "unevaluatedItems", "unevaluatedProperties"]
  | .draft202012 =>
    ["additionalProperties", "contains", "contentSchema", "else", "if", "items", "not",
      "propertyNames", "then", "unevaluatedItems", "unevaluatedProperties"]

def listKeywords : Draft → List String
  | .draft202012 => ["allOf", "anyOf", "oneOf", "prefixItems"]
  | _ => ["allOf", "anyOf", "oneOf"]

def mapKeywords : Draft → List String
  | .draft4 | .draft6 | .draft7 =>
    ["definitions", "dependencies", "patternProperties", "properties"]
  | _ => ["$defs", "definitions", "dependentSchemas", "patternProperties", "properties"]

/-- Whether `items` may hold a list. -/
def hasItemLists (d : Draft) : Bool := !d.since .draft202012

def memberSchemas (d : Draft) (key : String) (value : Value) : List Value :=
  if d.valueKeywords.contains key then
    match value with
    | .array xs => if key == "items" && d.hasItemLists then xs else [value]
    | _ => [value]
  else if d.listKeywords.contains key then value.items?.getD []
  else if d.mapKeywords.contains key then
    let schemas := (value.members?.getD []).map Prod.snd
    if key == "dependencies" then schemas.filter Value.isObject else schemas
  else []

/-- The schemas directly inside a schema. -/
def subschemas (d : Draft) (schema : Value) : List Value :=
  (schema.members?.getD []).flatMap fun (k, v) => d.memberSchemas k v

/-- Whether a path of keys through keywords ends at a schema. Array indices are passed over. -/
def leadsToSchema (d : Draft) : List (Option String) → Bool
  | [] => true
  | none :: rest => d.leadsToSchema rest
  | some key :: rest =>
    if d.valueKeywords.contains key then d.leadsToSchema rest
    else if d.listKeywords.contains key || d.mapKeywords.contains key then
      match rest with
      | [] => false
      | _ :: rest => d.leadsToSchema rest
    else false

end SchemaPipeline.Draft
