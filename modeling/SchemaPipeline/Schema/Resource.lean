import SchemaPipeline.Documents
import SchemaPipeline.Reference.Uri
import SchemaPipeline.Schema.Tree

/-!
# Resources

A schema that declares an identifier of its own starts a resource: the references inside it are
resolved against that identifier, itself relative to the resource around it. An identifier that is
only a fragment names an anchor and starts nothing.

Everything here is a walk over the schema tree: the references grouped by the resource they belong
to, the table of resources under their absolute names, and the schema that an anchor names.
-/

namespace SchemaPipeline

namespace Schema

def startsWithHash (s : String) : Bool := s.toList.head? == some '#'

/-- The identifier under a key, unless it is only a fragment. -/
def identifier? (ms : Members) (key : String) : Option String :=
  ((Members.find? ms key).bind Value.string?).filter (!startsWithHash ·)

/-- The identifier that a schema declares for itself. -/
def resourceId? : Value → Option String
  | .object ms => (identifier? ms "$id").or (identifier? ms "id")
  | _ => none

/-- The reference that a schema consists in or holds. -/
def reference? (schema : Value) : Option String := (schema.get? "$ref").bind Value.string?

/-! ## Base URLs -/

def defaultBaseText : String := "json-schema:///"

def defaultBase? : Option Url := Url.parse? defaultBaseText

/-- The URL of a document: its identifier relative to the default base, or the default base. -/
def baseUrl? (schema : Value) : Option Url :=
  defaultBase?.map fun base =>
    match resourceId? schema with
    | some id => (base.join? id).getD base
    | none => base

/-! ## References by resource -/

/-- The references of one resource in document order, and the identifiers that lead to it from
the root. -/
structure ResourceReferences where
  scope : List String
  references : List String
deriving DecidableEq, Repr

/-- The references of the resource under way, and the resources nested in it. -/
abbrev Gathered := List String × List ResourceReferences

def Gathered.append (a b : Gathered) : Gathered := (a.1 ++ b.1, a.2 ++ b.2)

mutual

/-- What a schema gives to the resource it lies in, its own identifier left aside. -/
def gather (scope : List String) : SchemaTree → Gathered
  | .node s cs => Gathered.append ((reference? s).toList, []) (gatherAll scope cs)

def gatherAll (scope : List String) : List SchemaTree → Gathered
  | [] => ([], [])
  | .node s cs :: rest =>
    let here : Gathered :=
      match resourceId? s with
      | some id =>
        let (references, nested) := gather (scope ++ [id]) (.node s cs)
        ([], ⟨scope ++ [id], references⟩ :: nested)
      | none => gather scope (.node s cs)
    Gathered.append here (gatherAll scope rest)

end

/-- Every reference of a document, by resource: the root first, then the nested ones in document
order. -/
def collectReferences (schema : Value) : List ResourceReferences :=
  let (references, nested) := gather [] schema.schemaTree
  ⟨[], references⟩ :: nested

/-! ## Resources under their names -/

/-- The base in force inside a schema. -/
def innerBase (base : Url) (schema : Value) : Url :=
  ((resourceId? schema).bind base.join?).getD base

/-- The name under which a schema is declared, seen from a base. -/
def declaredName? (base : Url) (schema : Value) : Option String :=
  ((resourceId? schema).bind base.join?).map fun u => Reference.normalize u.text

mutual

/-- The resources that a tree declares, in document order, seen from a base. -/
def declared (base : Url) : SchemaTree → List (String × Value)
  | .node s cs =>
    ((declaredName? base s).map (·, s)).toList ++ declaredAll (innerBase base s) cs

def declaredAll (base : Url) : List SchemaTree → List (String × Value)
  | [] => []
  | t :: rest => declared base t ++ declaredAll base rest

end

/-- A table with the resources of a document. A name that is taken keeps its document. -/
def indexResources (schema : Value) (base : Url) (table : Documents) : Documents :=
  table.insertAllNew (declared base schema.schemaTree)

/-! ## Anchors -/

def stripHash (s : String) : Option String :=
  match s.toList with
  | '#' :: rest => some (String.ofList rest)
  | _ => none

/-- Whether a schema is the target of an anchor. -/
def hasAnchor (name : String) (schema : Value) : Bool :=
  (schema.get? "$anchor").bind Value.string? == some name ||
    ["$id", "id"].any fun key =>
      ((schema.get? key).bind Value.string?).bind stripHash == some name

/-- The first schema of a document that an anchor names. -/
def findAnchor (name : String) (schema : Value) : Option Value :=
  schema.schemaTree.preorder.find? (hasAnchor name)

end Schema

end SchemaPipeline
