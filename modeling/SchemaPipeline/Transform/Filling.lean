import SchemaPipeline.Walk.Basic

/-!
# Filling what is undefined

After validation, every property that a schema declares is to be present. A node that is `null`
where its schema does not admit `null` counts as absent: it becomes an empty array or an object of
its declared properties, whichever its schema asks for. An object gains the declared properties it
lacks, each as `null`, and the walk then sees to those in turn.
-/

namespace SchemaPipeline.Transform

/-- Whether a schema asks for or allows a type. -/
def hasType (schema : Members) (name : String) : Bool :=
  match Members.find? schema "type" with
  | some (.string t) => t == name
  | some (.array types) => types.any fun t => t.string? == some name
  | _ => false

def admitsNull (schema : Members) : Bool :=
  hasType schema "null" ||
    (match Members.find? schema "nullable" with
     | some (.bool true) => true
     | _ => false)

def isArrayLike (schema : Members) : Bool :=
  Members.contains schema "items" || hasType schema "array"

def isObjectLike (schema : Members) : Bool :=
  Members.contains schema "properties" || hasType schema "object"

/-- The names of the declared properties, in the order of their declaration. -/
def declaredProperties (schema : Members) : List String :=
  match Members.find? schema "properties" with
  | some (.object ps) => Members.keys ps
  | _ => []

/-- An object with a member added where its key is not there yet. -/
def addMissing (ms : Members) (key : String) (v : Value) : Members :=
  if Members.contains ms key then ms else ms ++ [(key, v)]

def addAllMissing (ms : Members) (names : List String) : Members :=
  names.foldl (fun ms name => addMissing ms name .null) ms

/-- What a node becomes under an object schema. -/
def fill (schema : Members) : Value → Value
  | .null =>
    if admitsNull schema then .null
    else if isArrayLike schema then .array []
    else if isObjectLike schema then .object (addAllMissing [] (declaredProperties schema))
    else .null
  | .object ms =>
    if isObjectLike schema then .object (addAllMissing ms (declaredProperties schema))
    else .object ms
  | v => v

def fillUndefined (value : Value) (schema : Option Value) : Value :=
  match schema with
  | some (.object ms) => fill ms value
  | _ => value

def fillingName : String := "add-undefined-defaults"

def filling : Visitor := ⟨fillingName, fun value _ schema => .ok (fillUndefined value schema)⟩

end SchemaPipeline.Transform
