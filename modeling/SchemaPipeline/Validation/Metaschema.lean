import SchemaPipeline.Validation.Plan

/-!
# Metaschemas

The schemas of schemas, one for each draft; from 2019-09 on they consist of several vocabularies.
Titles, comments and defaults, which ask for nothing, are left out. The order of the members is that
of the published documents, since it decides which fault of a schema is found first.
-/

namespace SchemaPipeline.Metaschema

/-! ## Recurring parts -/

def ref (reference : String) : Value := .object [("$ref", .string reference)]

def typed (type : String) : Value := .object [("type", .string type)]

def formatted (format : String) : Value := .object [("format", .string format)]

def typedIn (type format : String) : Value :=
  .object [("type", .string type), ("format", .string format)]

/-- An object whose members are all under one schema. -/
def mapOf (schema : Value) : Value :=
  .object [("type", .string "object"), ("additionalProperties", schema)]

/-- A schema in the terms of the metaschema that is in use. -/
def anySchema : Value := .object [("$dynamicRef", .string "#meta")]

def anyRecursive : Value := .object [("$recursiveRef", .string "#")]

/-! ## Drafts 4, 6 and 7 -/

def draft4Definitions : Value :=
  .object [
    ("schemaArray", .object [
        ("type", .string "array"), ("minItems", Value.ofNat 1), ("items", ref "#")]),
    ("positiveInteger", .object [("type", .string "integer"), ("minimum", Value.ofNat 0)]),
    ("positiveIntegerDefault0", .object [("allOf", .array [ref "#/definitions/positiveInteger"])]),
    ("simpleTypes", .object [
        ("enum", Value.ofStrings ["array", "boolean", "integer", "null", "number", "object",
              "string"])]),
    ("stringArray", .object [
        ("type", .string "array"), ("items", typed "string"), ("minItems", Value.ofNat 1),
        ("uniqueItems", .bool true)])]

def draft4Properties : Value :=
  .object [
    ("id", typed "string"), ("$schema", typed "string"), ("title", typed "string"),
    ("description", typed "string"),
    ("multipleOf", .object [
        ("type", .string "number"), ("minimum", Value.ofNat 0), ("exclusiveMinimum", .bool true)]),
    ("maximum", typed "number"), ("exclusiveMaximum", typed "boolean"), ("minimum", typed "number"),
    ("exclusiveMinimum", typed "boolean"), ("maxLength", ref "#/definitions/positiveInteger"),
    ("minLength", ref "#/definitions/positiveIntegerDefault0"),
    ("pattern", typedIn "string" "regex"),
    ("additionalItems", .object [("anyOf", .array [typed "boolean", ref "#"])]),
    ("items", .object [("anyOf", .array [ref "#", ref "#/definitions/schemaArray"])]),
    ("maxItems", ref "#/definitions/positiveInteger"),
    ("minItems", ref "#/definitions/positiveIntegerDefault0"), ("uniqueItems", typed "boolean"),
    ("maxProperties", ref "#/definitions/positiveInteger"),
    ("minProperties", ref "#/definitions/positiveIntegerDefault0"),
    ("required", ref "#/definitions/stringArray"),
    ("additionalProperties", .object [("anyOf", .array [typed "boolean", ref "#"])]),
    ("definitions", mapOf (ref "#")), ("properties", mapOf (ref "#")),
    ("patternProperties", mapOf (ref "#")),
    ("dependencies", mapOf (.object [
          ("anyOf", .array [ref "#", ref "#/definitions/stringArray"])])),
    ("enum", typed "array"),
    ("type", .object [
        ("anyOf", .array [
            ref "#/definitions/simpleTypes",
            .object [
              ("type", .string "array"), ("items", ref "#/definitions/simpleTypes"),
              ("minItems", Value.ofNat 1), ("uniqueItems", .bool true)]])]),
    ("format", typed "string"), ("allOf", ref "#/definitions/schemaArray"),
    ("anyOf", ref "#/definitions/schemaArray"), ("oneOf", ref "#/definitions/schemaArray"),
    ("not", ref "#")]

def draft4 : Value :=
  .object [
    ("id", .string "http://json-schema.org/draft-04/schema#"),
    ("$schema", .string "http://json-schema.org/draft-04/schema#"),
    ("definitions", draft4Definitions),
    ("type", .string "object"), ("properties", draft4Properties),
    ("dependencies", .object [
        ("exclusiveMaximum", Value.ofStrings ["maximum"]),
        ("exclusiveMinimum", Value.ofStrings ["minimum"])])]

def draft6Definitions : Value :=
  .object [
    ("schemaArray", .object [
        ("type", .string "array"), ("minItems", Value.ofNat 1), ("items", ref "#")]),
    ("nonNegativeInteger", .object [("type", .string "integer"), ("minimum", Value.ofNat 0)]),
    ("nonNegativeIntegerDefault0", .object [
        ("allOf", .array [ref "#/definitions/nonNegativeInteger"])]),
    ("simpleTypes", .object [
        ("enum", Value.ofStrings ["array", "boolean", "integer", "null", "number", "object",
              "string"])]),
    ("stringArray", .object [
        ("type", .string "array"), ("items", typed "string"), ("uniqueItems", .bool true)])]

def draft6Properties : Value :=
  .object [
    ("$id", typedIn "string" "uri-reference"), ("$schema", typedIn "string" "uri"),
    ("$ref", typedIn "string" "uri-reference"), ("title", typed "string"),
    ("description", typed "string"), ("examples", typed "array"),
    ("multipleOf", .object [("type", .string "number"), ("exclusiveMinimum", Value.ofNat 0)]),
    ("maximum", typed "number"), ("exclusiveMaximum", typed "number"), ("minimum", typed "number"),
    ("exclusiveMinimum", typed "number"), ("maxLength", ref "#/definitions/nonNegativeInteger"),
    ("minLength", ref "#/definitions/nonNegativeIntegerDefault0"),
    ("pattern", typedIn "string" "regex"), ("additionalItems", ref "#"),
    ("items", .object [("anyOf", .array [ref "#", ref "#/definitions/schemaArray"])]),
    ("maxItems", ref "#/definitions/nonNegativeInteger"),
    ("minItems", ref "#/definitions/nonNegativeIntegerDefault0"), ("uniqueItems", typed "boolean"),
    ("contains", ref "#"), ("maxProperties", ref "#/definitions/nonNegativeInteger"),
    ("minProperties", ref "#/definitions/nonNegativeIntegerDefault0"),
    ("required", ref "#/definitions/stringArray"), ("additionalProperties", ref "#"),
    ("definitions", mapOf (ref "#")), ("properties", mapOf (ref "#")),
    ("patternProperties", .object [
        ("type", .string "object"), ("additionalProperties", ref "#"),
        ("propertyNames", formatted "regex")]),
    ("dependencies", mapOf (.object [
          ("anyOf", .array [ref "#", ref "#/definitions/stringArray"])])),
    ("propertyNames", ref "#"), ("enum", typed "array"),
    ("type", .object [
        ("anyOf", .array [
            ref "#/definitions/simpleTypes",
            .object [
              ("type", .string "array"), ("items", ref "#/definitions/simpleTypes"),
              ("minItems", Value.ofNat 1), ("uniqueItems", .bool true)]])]),
    ("format", typed "string"), ("allOf", ref "#/definitions/schemaArray"),
    ("anyOf", ref "#/definitions/schemaArray"), ("oneOf", ref "#/definitions/schemaArray"),
    ("not", ref "#")]

def draft6 : Value :=
  .object [
    ("$schema", .string "http://json-schema.org/draft-06/schema#"),
    ("$id", .string "http://json-schema.org/draft-06/schema#"),
    ("definitions", draft6Definitions),
    ("type", Value.ofStrings ["object", "boolean"]), ("properties", draft6Properties)]

def draft7Definitions : Value :=
  .object [
    ("schemaArray", .object [
        ("type", .string "array"), ("minItems", Value.ofNat 1), ("items", ref "#")]),
    ("nonNegativeInteger", .object [("type", .string "integer"), ("minimum", Value.ofNat 0)]),
    ("nonNegativeIntegerDefault0", .object [
        ("allOf", .array [ref "#/definitions/nonNegativeInteger"])]),
    ("simpleTypes", .object [
        ("enum", Value.ofStrings ["array", "boolean", "integer", "null", "number", "object",
              "string"])]),
    ("stringArray", .object [
        ("type", .string "array"), ("items", typed "string"), ("uniqueItems", .bool true)])]

def draft7Properties : Value :=
  .object [
    ("$id", typedIn "string" "uri-reference"), ("$schema", typedIn "string" "uri"),
    ("$ref", typedIn "string" "uri-reference"), ("$comment", typed "string"),
    ("title", typed "string"), ("description", typed "string"), ("readOnly", typed "boolean"),
    ("writeOnly", typed "boolean"), ("examples", typed "array"),
    ("multipleOf", .object [("type", .string "number"), ("exclusiveMinimum", Value.ofNat 0)]),
    ("maximum", typed "number"), ("exclusiveMaximum", typed "number"), ("minimum", typed "number"),
    ("exclusiveMinimum", typed "number"), ("maxLength", ref "#/definitions/nonNegativeInteger"),
    ("minLength", ref "#/definitions/nonNegativeIntegerDefault0"),
    ("pattern", typedIn "string" "regex"), ("additionalItems", ref "#"),
    ("items", .object [("anyOf", .array [ref "#", ref "#/definitions/schemaArray"])]),
    ("maxItems", ref "#/definitions/nonNegativeInteger"),
    ("minItems", ref "#/definitions/nonNegativeIntegerDefault0"), ("uniqueItems", typed "boolean"),
    ("contains", ref "#"), ("maxProperties", ref "#/definitions/nonNegativeInteger"),
    ("minProperties", ref "#/definitions/nonNegativeIntegerDefault0"),
    ("required", ref "#/definitions/stringArray"), ("additionalProperties", ref "#"),
    ("definitions", mapOf (ref "#")), ("properties", mapOf (ref "#")),
    ("patternProperties", .object [
        ("type", .string "object"), ("additionalProperties", ref "#"),
        ("propertyNames", formatted "regex")]),
    ("dependencies", mapOf (.object [
          ("anyOf", .array [ref "#", ref "#/definitions/stringArray"])])),
    ("propertyNames", ref "#"), ("enum", typed "array"),
    ("type", .object [
        ("anyOf", .array [
            ref "#/definitions/simpleTypes",
            .object [
              ("type", .string "array"), ("items", ref "#/definitions/simpleTypes"),
              ("minItems", Value.ofNat 1), ("uniqueItems", .bool true)]])]),
    ("format", typed "string"), ("contentMediaType", typed "string"),
    ("contentEncoding", typed "string"), ("if", ref "#"), ("then", ref "#"), ("else", ref "#"),
    ("allOf", ref "#/definitions/schemaArray"), ("anyOf", ref "#/definitions/schemaArray"),
    ("oneOf", ref "#/definitions/schemaArray"), ("not", ref "#")]

def draft7 : Value :=
  .object [
    ("$schema", .string "http://json-schema.org/draft-07/schema#"),
    ("$id", .string "http://json-schema.org/draft-07/schema#"),
    ("definitions", draft7Definitions),
    ("type", Value.ofStrings ["object", "boolean"]), ("properties", draft7Properties)]

/-! ## Draft 2019-09 -/

def draft201909 : Value :=
  .object [
    ("$schema", .string "https://json-schema.org/draft/2019-09/schema"),
    ("$id", .string "https://json-schema.org/draft/2019-09/schema"),
    ("$recursiveAnchor", .bool true),
    ("allOf", .array [
        ref "meta/core", ref "meta/applicator", ref "meta/validation", ref "meta/meta-data",
        ref "meta/format", ref "meta/content"]),
    ("type", Value.ofStrings ["object", "boolean"]),
    ("properties", .object [
        ("definitions", mapOf anyRecursive),
        ("dependencies", mapOf (.object [
              ("anyOf", .array [anyRecursive, ref "meta/validation#/$defs/stringArray"])]))])]

def draft201909Core : Value :=
  .object [
    ("$schema", .string "https://json-schema.org/draft/2019-09/schema"),
    ("$id", .string "https://json-schema.org/draft/2019-09/meta/core"),
    ("$recursiveAnchor", .bool true), ("type", Value.ofStrings ["object", "boolean"]),
    ("properties", .object [
        ("$id", .object [
            ("type", .string "string"), ("format", .string "uri-reference"),
            ("pattern", .string "^[^#]*#?$")]),
        ("$schema", typedIn "string" "uri"),
        ("$anchor", .object [
            ("type", .string "string"), ("pattern", .string "^[A-Za-z][-A-Za-z0-9.:_]*$")]),
        ("$ref", typedIn "string" "uri-reference"),
        ("$recursiveRef", typedIn "string" "uri-reference"), ("$recursiveAnchor", typed "boolean"),
        ("$vocabulary", .object [
            ("type", .string "object"), ("propertyNames", typedIn "string" "uri"),
            ("additionalProperties", typed "boolean")]),
        ("$comment", typed "string"), ("$defs", mapOf anyRecursive)])]

def draft201909Applicator : Value :=
  .object [
    ("$schema", .string "https://json-schema.org/draft/2019-09/schema"),
    ("$id", .string "https://json-schema.org/draft/2019-09/meta/applicator"),
    ("$recursiveAnchor", .bool true), ("type", Value.ofStrings ["object", "boolean"]),
    ("properties", .object [
        ("additionalItems", anyRecursive), ("unevaluatedItems", anyRecursive),
        ("items", .object [("anyOf", .array [anyRecursive, ref "#/$defs/schemaArray"])]),
        ("contains", anyRecursive), ("additionalProperties", anyRecursive),
        ("unevaluatedProperties", anyRecursive), ("properties", mapOf anyRecursive),
        ("patternProperties", .object [
            ("type", .string "object"), ("additionalProperties", anyRecursive),
            ("propertyNames", formatted "regex")]),
        ("dependentSchemas", mapOf anyRecursive), ("propertyNames", anyRecursive),
        ("if", anyRecursive), ("then", anyRecursive), ("else", anyRecursive),
        ("allOf", ref "#/$defs/schemaArray"), ("anyOf", ref "#/$defs/schemaArray"),
        ("oneOf", ref "#/$defs/schemaArray"), ("not", anyRecursive)]),
    ("$defs", .object [
        ("schemaArray", .object [
            ("type", .string "array"), ("minItems", Value.ofNat 1), ("items", anyRecursive)])])]

def draft201909Validation : Value :=
  .object [
    ("$schema", .string "https://json-schema.org/draft/2019-09/schema"),
    ("$id", .string "https://json-schema.org/draft/2019-09/meta/validation"),
    ("$recursiveAnchor", .bool true), ("type", Value.ofStrings ["object", "boolean"]),
    ("properties", .object [
        ("multipleOf", .object [("type", .string "number"), ("exclusiveMinimum", Value.ofNat 0)]),
        ("maximum", typed "number"), ("exclusiveMaximum", typed "number"),
        ("minimum", typed "number"), ("exclusiveMinimum", typed "number"),
        ("maxLength", ref "#/$defs/nonNegativeInteger"),
        ("minLength", ref "#/$defs/nonNegativeIntegerDefault0"),
        ("pattern", typedIn "string" "regex"), ("maxItems", ref "#/$defs/nonNegativeInteger"),
        ("minItems", ref "#/$defs/nonNegativeIntegerDefault0"), ("uniqueItems", typed "boolean"),
        ("maxContains", ref "#/$defs/nonNegativeInteger"),
        ("minContains", ref "#/$defs/nonNegativeInteger"),
        ("maxProperties", ref "#/$defs/nonNegativeInteger"),
        ("minProperties", ref "#/$defs/nonNegativeIntegerDefault0"),
        ("required", ref "#/$defs/stringArray"),
        ("dependentRequired", mapOf (ref "#/$defs/stringArray")), ("enum", typed "array"),
        ("type", .object [
            ("anyOf", .array [
                ref "#/$defs/simpleTypes",
                .object [
                  ("type", .string "array"), ("items", ref "#/$defs/simpleTypes"),
                  ("minItems", Value.ofNat 1), ("uniqueItems", .bool true)]])])]),
    ("$defs", .object [
        ("nonNegativeInteger", .object [("type", .string "integer"), ("minimum", Value.ofNat 0)]),
        ("nonNegativeIntegerDefault0", ref "#/$defs/nonNegativeInteger"),
        ("simpleTypes", .object [
            ("enum", Value.ofStrings ["array", "boolean", "integer", "null", "number", "object",
                  "string"])]),
        ("stringArray", .object [
            ("type", .string "array"), ("items", typed "string"), ("uniqueItems", .bool true)])])]

def draft201909MetaData : Value :=
  .object [
    ("$schema", .string "https://json-schema.org/draft/2019-09/schema"),
    ("$id", .string "https://json-schema.org/draft/2019-09/meta/meta-data"),
    ("$recursiveAnchor", .bool true), ("type", Value.ofStrings ["object", "boolean"]),
    ("properties", .object [
        ("title", typed "string"), ("description", typed "string"), ("deprecated", typed "boolean"),
        ("readOnly", typed "boolean"), ("writeOnly", typed "boolean"),
        ("examples", typed "array")])]

def draft201909Format : Value :=
  .object [
    ("$schema", .string "https://json-schema.org/draft/2019-09/schema"),
    ("$id", .string "https://json-schema.org/draft/2019-09/meta/format"),
    ("$recursiveAnchor", .bool true), ("type", Value.ofStrings ["object", "boolean"]),
    ("properties", .object [("format", typed "string")])]

def draft201909Content : Value :=
  .object [
    ("$schema", .string "https://json-schema.org/draft/2019-09/schema"),
    ("$id", .string "https://json-schema.org/draft/2019-09/meta/content"),
    ("$recursiveAnchor", .bool true), ("type", Value.ofStrings ["object", "boolean"]),
    ("properties", .object [
        ("contentMediaType", typed "string"), ("contentEncoding", typed "string"),
        ("contentSchema", anyRecursive)])]

/-! ## Draft 2020-12 -/

def draft202012 : Value :=
  .object [
    ("$schema", .string "https://json-schema.org/draft/2020-12/schema"),
    ("$id", .string "https://json-schema.org/draft/2020-12/schema"),
    ("$dynamicAnchor", .string "meta"),
    ("allOf", .array [
        ref "meta/core", ref "meta/applicator", ref "meta/unevaluated", ref "meta/validation",
        ref "meta/meta-data", ref "meta/format-annotation", ref "meta/content"]),
    ("type", Value.ofStrings ["object", "boolean"]),
    ("properties", .object [
        ("definitions", mapOf anySchema),
        ("dependencies", mapOf (.object [
              ("anyOf", .array [anySchema, ref "meta/validation#/$defs/stringArray"])])),
        ("$recursiveAnchor", ref "meta/core#/$defs/anchorString"),
        ("$recursiveRef", ref "meta/core#/$defs/uriReferenceString")])]

def draft202012Core : Value :=
  .object [
    ("$schema", .string "https://json-schema.org/draft/2020-12/schema"),
    ("$id", .string "https://json-schema.org/draft/2020-12/meta/core"),
    ("$dynamicAnchor", .string "meta"), ("type", Value.ofStrings ["object", "boolean"]),
    ("properties", .object [
        ("$id", .object [
            ("$ref", .string "#/$defs/uriReferenceString"), ("pattern", .string "^[^#]*#?$")]),
        ("$schema", ref "#/$defs/uriString"), ("$ref", ref "#/$defs/uriReferenceString"),
        ("$anchor", ref "#/$defs/anchorString"), ("$dynamicRef", ref "#/$defs/uriReferenceString"),
        ("$dynamicAnchor", ref "#/$defs/anchorString"),
        ("$vocabulary", .object [
            ("type", .string "object"), ("propertyNames", ref "#/$defs/uriString"),
            ("additionalProperties", typed "boolean")]),
        ("$comment", typed "string"), ("$defs", mapOf anySchema)]),
    ("$defs", .object [
        ("anchorString", .object [
            ("type", .string "string"), ("pattern", .string "^[A-Za-z_][-A-Za-z0-9._]*$")]),
        ("uriString", typedIn "string" "uri"),
        ("uriReferenceString", typedIn "string" "uri-reference")])]

def draft202012Applicator : Value :=
  .object [
    ("$schema", .string "https://json-schema.org/draft/2020-12/schema"),
    ("$id", .string "https://json-schema.org/draft/2020-12/meta/applicator"),
    ("$dynamicAnchor", .string "meta"), ("type", Value.ofStrings ["object", "boolean"]),
    ("properties", .object [
        ("prefixItems", ref "#/$defs/schemaArray"), ("items", anySchema), ("contains", anySchema),
        ("additionalProperties", anySchema), ("properties", mapOf anySchema),
        ("patternProperties", .object [
            ("type", .string "object"), ("additionalProperties", anySchema),
            ("propertyNames", formatted "regex")]),
        ("dependentSchemas", mapOf anySchema), ("propertyNames", anySchema), ("if", anySchema),
        ("then", anySchema), ("else", anySchema), ("allOf", ref "#/$defs/schemaArray"),
        ("anyOf", ref "#/$defs/schemaArray"), ("oneOf", ref "#/$defs/schemaArray"),
        ("not", anySchema)]),
    ("$defs", .object [
        ("schemaArray", .object [
            ("type", .string "array"), ("minItems", Value.ofNat 1), ("items", anySchema)])])]

def draft202012Unevaluated : Value :=
  .object [
    ("$schema", .string "https://json-schema.org/draft/2020-12/schema"),
    ("$id", .string "https://json-schema.org/draft/2020-12/meta/unevaluated"),
    ("$dynamicAnchor", .string "meta"), ("type", Value.ofStrings ["object", "boolean"]),
    ("properties", .object [("unevaluatedItems", anySchema), ("unevaluatedProperties", anySchema)])]

def draft202012Validation : Value :=
  .object [
    ("$schema", .string "https://json-schema.org/draft/2020-12/schema"),
    ("$id", .string "https://json-schema.org/draft/2020-12/meta/validation"),
    ("$dynamicAnchor", .string "meta"), ("type", Value.ofStrings ["object", "boolean"]),
    ("properties", .object [
        ("type", .object [
            ("anyOf", .array [
                ref "#/$defs/simpleTypes",
                .object [
                  ("type", .string "array"), ("items", ref "#/$defs/simpleTypes"),
                  ("minItems", Value.ofNat 1), ("uniqueItems", .bool true)]])]),
        ("enum", typed "array"),
        ("multipleOf", .object [("type", .string "number"), ("exclusiveMinimum", Value.ofNat 0)]),
        ("maximum", typed "number"), ("exclusiveMaximum", typed "number"),
        ("minimum", typed "number"), ("exclusiveMinimum", typed "number"),
        ("maxLength", ref "#/$defs/nonNegativeInteger"),
        ("minLength", ref "#/$defs/nonNegativeIntegerDefault0"),
        ("pattern", typedIn "string" "regex"), ("maxItems", ref "#/$defs/nonNegativeInteger"),
        ("minItems", ref "#/$defs/nonNegativeIntegerDefault0"), ("uniqueItems", typed "boolean"),
        ("maxContains", ref "#/$defs/nonNegativeInteger"),
        ("minContains", ref "#/$defs/nonNegativeInteger"),
        ("maxProperties", ref "#/$defs/nonNegativeInteger"),
        ("minProperties", ref "#/$defs/nonNegativeIntegerDefault0"),
        ("required", ref "#/$defs/stringArray"),
        ("dependentRequired", mapOf (ref "#/$defs/stringArray"))]),
    ("$defs", .object [
        ("nonNegativeInteger", .object [("type", .string "integer"), ("minimum", Value.ofNat 0)]),
        ("nonNegativeIntegerDefault0", ref "#/$defs/nonNegativeInteger"),
        ("simpleTypes", .object [
            ("enum", Value.ofStrings ["array", "boolean", "integer", "null", "number", "object",
                  "string"])]),
        ("stringArray", .object [
            ("type", .string "array"), ("items", typed "string"), ("uniqueItems", .bool true)])])]

def draft202012MetaData : Value :=
  .object [
    ("$schema", .string "https://json-schema.org/draft/2020-12/schema"),
    ("$id", .string "https://json-schema.org/draft/2020-12/meta/meta-data"),
    ("$dynamicAnchor", .string "meta"), ("type", Value.ofStrings ["object", "boolean"]),
    ("properties", .object [
        ("title", typed "string"), ("description", typed "string"), ("deprecated", typed "boolean"),
        ("readOnly", typed "boolean"), ("writeOnly", typed "boolean"),
        ("examples", typed "array")])]

def draft202012Format : Value :=
  .object [
    ("$schema", .string "https://json-schema.org/draft/2020-12/schema"),
    ("$id", .string "https://json-schema.org/draft/2020-12/meta/format-annotation"),
    ("$dynamicAnchor", .string "meta"), ("type", Value.ofStrings ["object", "boolean"]),
    ("properties", .object [("format", typed "string")])]

def draft202012Content : Value :=
  .object [
    ("$schema", .string "https://json-schema.org/draft/2020-12/schema"),
    ("$id", .string "https://json-schema.org/draft/2020-12/meta/content"),
    ("$dynamicAnchor", .string "meta"), ("type", Value.ofStrings ["object", "boolean"]),
    ("properties", .object [
        ("contentEncoding", typed "string"), ("contentMediaType", typed "string"),
        ("contentSchema", anySchema)])]

/-! ## The library -/

/-- Every document with its draft. -/
def documents : List Resource :=
  [⟨draft4, .draft4⟩, ⟨draft6, .draft6⟩, ⟨draft7, .draft7⟩, ⟨draft201909, .draft201909⟩,
    ⟨draft201909Core, .draft201909⟩, ⟨draft201909Applicator, .draft201909⟩,
    ⟨draft201909Validation, .draft201909⟩, ⟨draft201909MetaData, .draft201909⟩,
    ⟨draft201909Format, .draft201909⟩, ⟨draft201909Content, .draft201909⟩,
    ⟨draft202012, .draft202012⟩, ⟨draft202012Core, .draft202012⟩,
    ⟨draft202012Applicator, .draft202012⟩, ⟨draft202012Unevaluated, .draft202012⟩,
    ⟨draft202012Validation, .draft202012⟩, ⟨draft202012MetaData, .draft202012⟩,
    ⟨draft202012Format, .draft202012⟩, ⟨draft202012Content, .draft202012⟩]

/-- The URI of a document that names itself. -/
def uriOf (r : Resource) : Uri :=
  ((r.draft.id? r.contents).bind fun id => (Uri.ofId id).toOption).getD Uri.rootBase

/-- The metaschemas, which every library starts from. -/
def library : Library :=
  let named := documents.foldl (fun l r => l.insert (uriOf r) r) Library.empty
  documents.foldl (fun l r =>
    match l.extend (fun _ => none) (uriOf r) r with
    | .ok extended => extended
    | .error _ => l) named

/-- The plan of the metaschema of a draft. Up to draft 7 it asserts formats. -/
def planOf (d : Draft) : Plan :=
  let terms : Terms := ⟨some d, d.isLegacy, []⟩
  let uri := (Uri.ofId d.metaschema).toOption.getD Uri.rootBase
  match library.find? uri with
  | some r =>
    ((Plan.ofSite library terms ⟨r.contents, ⟨uri, [], d, Vocabulary.ofDraft d⟩⟩).toOption).getD
      Plan.idle
  | none => Plan.idle

def plan4 : Plan := planOf .draft4
def plan6 : Plan := planOf .draft6
def plan7 : Plan := planOf .draft7
def plan201909 : Plan := planOf .draft201909
def plan202012 : Plan := planOf .draft202012

def plan : Draft → Plan
  | .draft4 => plan4
  | .draft6 => plan6
  | .draft7 => plan7
  | .draft201909 => plan201909
  | .draft202012 => plan202012

end SchemaPipeline.Metaschema
