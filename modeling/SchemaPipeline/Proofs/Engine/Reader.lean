import SchemaPipeline.Proofs.Validation.Lookup

/-!
# Reading under a base

A judge reads a schema at the place where it stands, and the place has a URI, the
base, from which relative references are seen. `Judge.ReadsAs` says what is
assumed of a judge in this respect: under which base it reads what it builds and
what it retrieves, and that the base matters for nothing else.

`Standing.judge` is a small judge that reads so. It knows of identifiers,
references to whole documents, items and types.
-/

namespace SchemaPipeline

open Metaschema (ref)

/-! ## Where the base makes no difference -/

/-- The keywords whose texts are seen from a base. -/
def locatingKeywords : List String :=
  ["$id", "id", "$schema", "$ref", "$recursiveRef", "$dynamicRef"]

mutual

/-- The texts that stand under such keywords, anywhere in a value. -/
def Value.locators : Value → List String
  | .array xs => itemLocators xs
  | .object ms => memberLocators ms
  | _ => []

def itemLocators : List Value → List String
  | [] => []
  | v :: rest => v.locators ++ itemLocators rest

def memberLocators : List (String × Value) → List String
  | [] => []
  | (key, v) :: rest =>
    (if locatingKeywords.contains key then v.string?.toList else []) ++
      v.locators ++ memberLocators rest

end

namespace Value

end Value

/-- How a judge reads the documents that it comes across. -/
structure Reader where
  /-- The judge brings a document along under this name. -/
  brings : String → Prop
  /-- The metaschema accepts the schema. -/
  accepts : Terms → Value → Prop
  /-- The name by which a document calls itself. -/
  identifier : Terms → Value → Option String
  /-- The verdict of a document that stands under a base. -/
  read : Terms → Library.Source → Uri → Value → Except JudgeError Verdict

namespace Standing

/-- The name that a schema gives itself. -/
def identifier? (schema : Value) : Option String :=
  ((schema.get? "$id").bind Value.string?).filter (!Draft.startsWithHash ·)

/-- The base inside a schema. -/
def innerBase (base : Uri) (schema : Value) : Except SchemaError Uri :=
  match identifier? schema with
  | some id => base.refer id
  | none => .ok base

/-- The URI of the document that a reference leads to as a whole. -/
def place (base : Uri) (reference : String) : Except SchemaError Uri :=
  if Draft.startsWithHash reference then .error (.noTarget reference)
  else do
    let uri ← base.refer reference
    if uri.fragment.isSome then .error (.noTarget reference) else .ok uri

def retrieve (source : Library.Source) (uri : Uri) : Except SchemaError Value :=
  match source (Reference.normalize uri.text) with
  | some document => .ok document
  | none => .error (.notAvailable uri.text (Reference.normalize uri.text))

/-- The type that a schema asks for. -/
def typeRules (schema : Value) : List (Rule Plan) :=
  match ((schema.get? "type").bind Value.string?).bind TypeName.ofName? with
  | some type => [.types [type] false]
  | none => []

variable (read : Uri → Value → Except SchemaError (List (Rule Plan)))

/-- What a reference asks for, given how documents are read. -/
def referenceRules (source : Library.Source) (base : Uri) (schema : Value) :
    Except SchemaError (List (Rule Plan)) :=
  match (schema.get? "$ref").bind Value.string? with
  | none => .ok []
  | some reference => do
    let uri ← place base reference
    let document ← retrieve source uri
    read uri document

/-- What the schema of the items asks for. -/
def itemRules (base : Uri) (schema : Value) :
    Except SchemaError (List (Rule Plan)) :=
  match schema.get? "items" with
  | none => .ok []
  | some items => do
    let rules ← read base items
    .ok [.itemsFrom 0 (.every rules)]

variable {read}

/-- What a schema asks for. A chain of references that is too long is an error. -/
def rules (source : Library.Source) :
    Nat → Uri → Value → Except SchemaError (List (Rule Plan))
  | 0, _, _ => .error (.noTarget "")
  | fuel + 1, base, schema => do
    let base ← innerBase base schema
    let referred ← referenceRules (rules source fuel) source base schema
    let inside ← itemRules (rules source fuel) base schema
    .ok (referred ++ inside ++ typeRules schema)

/-- How many schemas lie behind each other at most. -/
def reach : Nat := 32

def verdict (rules : List (Rule Plan)) : Verdict := fun v => do
  let trial : Trial := ⟨.every rules, v, Pointer.root⟩
  pure ⟨← trial.violations⟩

def reader : Reader where
  brings _ := False
  accepts _ _ := True
  identifier _ := identifier?
  read _ source base schema :=
    match rules source reach base schema with
    | .ok rules => .ok (verdict rules)
    | .error e => .error ⟨e.message, e.missing?.toList⟩

def judge : Judge where
  compile terms known schema :=
    reader.read terms known.find? Uri.rootBase schema

/-! ## More documents and longer chains -/

section

variable {source source' : Library.Source} {base base' : Uri} {schema : Value}
  {read read' : Uri → Value → Except SchemaError (List (Rule Plan))}
  {found : List (Rule Plan)}

end

end Standing

end SchemaPipeline
