import SchemaPipeline.Transform.Filling

/-!
# Inserting defaults

Before validation, an object gains the properties it lacks whose schema, as written under
`properties`, has a `default` of its own. Nothing that is there is replaced.
-/

namespace SchemaPipeline.Transform

/-- The properties with a default, in the order of their declaration. -/
def declaredDefaults (schema : Value) : Members :=
  match schema.get? "properties" with
  | some (.object ps) =>
    ps.filterMap fun (name, property) => (property.get? "default").map (name, ·)
  | _ => []

def addDefaults (ms : Members) (defaults : Members) : Members :=
  defaults.foldl (fun ms d => addMissing ms d.1 d.2) ms

def insertDefaults (value : Value) (schema : Option Value) : Value :=
  match value, schema with
  | .object ms, some s => .object (addDefaults ms (declaredDefaults s))
  | v, _ => v

def defaultsName : String := "insert-schema-defaults"

def defaults : Visitor := ⟨defaultsName, fun value _ schema => .ok (insertDefaults value schema)⟩

end SchemaPipeline.Transform
