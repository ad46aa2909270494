import SchemaPipeline.Json.Value

/-!
# The schemas inside a schema

Only some keywords hold schemas, and a schema holds another one only through them: what stands in
an annotation, an unknown keyword or a keyword that holds data is never a schema. `Value.schemaTree`
makes this structure explicit. Its nodes are the positions of a document that are schemas, the
children of a node in the order of the keywords that hold them, so the order of a document is the
pre-order of its tree.
-/

namespace SchemaPipeline

/-- How a keyword holds schemas. -/
inductive KeywordRole where
  | one
  | oneOrList
  | list
  | named
  | data
deriving DecidableEq, Repr

namespace KeywordRole

def singleKeywords : List String :=
  ["additionalProperties", "additionalItems", "unevaluatedProperties", "unevaluatedItems",
    "contains", "propertyNames", "not", "if", "then", "else", "contentSchema"]

def listKeywords : List String := ["allOf", "anyOf", "oneOf", "prefixItems"]

def namedKeywords : List String :=
  ["properties", "patternProperties", "definitions", "$defs", "dependentSchemas", "dependencies"]

def ofKeyword (keyword : String) : KeywordRole :=
  if keyword == "items" then .oneOrList
  else if singleKeywords.contains keyword then .one
  else if listKeywords.contains keyword then .list
  else if namedKeywords.contains keyword then .named
  else .data

end KeywordRole

inductive SchemaTree where
  | node (schema : Value) (children : List SchemaTree)
deriving Repr

mutual

/-- A schema with the schemas inside it. -/
def Value.schemaTree : Value → SchemaTree
  | .object ms => .node (.object ms) (memberTrees ms)
  | .array xs => .node (.array xs) []
  | v => .node v []
termination_by structural v => v

/-- The schemas that the members of a schema hold. -/
def memberTrees : List (String × Value) → List SchemaTree
  | [] => []
  | (k, v) :: rest =>
    (match KeywordRole.ofKeyword k with
     | .one => [v.schemaTree]
     | .oneOrList =>
       match v with
       | .array xs => itemTrees xs
       | w => [w.schemaTree]
     | .list =>
       match v with
       | .array xs => itemTrees xs
       | _ => []
     | .named =>
       match v with
       | .object ms => namedTrees ms
       | _ => []
     | .data => []) ++ memberTrees rest
termination_by structural ms => ms

def itemTrees : List Value → List SchemaTree
  | [] => []
  | v :: rest => v.schemaTree :: itemTrees rest
termination_by structural vs => vs

/-- The schemas of a map from names; a list of names among them is no schema. -/
def namedTrees : List (String × Value) → List SchemaTree
  | [] => []
  | (_, v) :: rest =>
    match v with
    | .array _ => namedTrees rest
    | w => w.schemaTree :: namedTrees rest
termination_by structural ms => ms

end

namespace SchemaTree

def schema : SchemaTree → Value
  | .node s _ => s

def children : SchemaTree → List SchemaTree
  | .node _ cs => cs

mutual

/-- The schemas of a tree in pre-order. -/
def preorder : SchemaTree → List Value
  | .node s cs => s :: preorderAll cs

def preorderAll : List SchemaTree → List Value
  | [] => []
  | t :: rest => t.preorder ++ preorderAll rest

end

mutual

def size : SchemaTree → Nat
  | .node _ cs => 1 + sizeAll cs

def sizeAll : List SchemaTree → Nat
  | [] => 0
  | t :: rest => t.size + sizeAll rest

end

end SchemaTree

/-- The schemas directly inside a schema. -/
def Value.subschemas (v : Value) : List Value := v.schemaTree.children.map SchemaTree.schema

end SchemaPipeline
