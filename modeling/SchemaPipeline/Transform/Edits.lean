import SchemaPipeline.Walk.Basic

/-!
# Elementary edits

Small visitors to build pipelines from. Each concerns one kind of value or one place and returns
every other node as it is.
-/

namespace SchemaPipeline.Transform

inductive Edit where
  | identity
  | append (suffix : String)
  | upper
  | increment
  | replaceEqual (old new : Value)
  | replaceAt (place : String) (new : Value)
  | failAt (place reason : String)
  | failType (kind reason : String)
  | dropKey (key : String)
  | title
deriving Repr

namespace Edit

/-- The next integer, unless it leaves the signed 64-bit range. -/
def successor (i : Int) : Int := if i + 1 < Nat.pow 2 63 then i + 1 else i

def apply (edit : Edit) (value : Value) (pointer : Pointer) (schema : Option Value) :
    Except TransformError Value :=
  match edit, value with
  | .append suffix, .string s => .ok (.string (s ++ suffix))
  | .upper, .string s => .ok (.string (s.map Char.toUpper))
  | .increment, .number (.int i) => .ok (.number (.int (successor i)))
  | .replaceEqual old new, v => .ok (if v.same old then new else v)
  | .replaceAt place new, v => .ok (if pointer.text == place then new else v)
  | .failAt place reason, v =>
    if pointer.text == place then .error (.failed pointer.text reason) else .ok v
  | .failType kind reason, v =>
    if v.kind == kind then .error (.failed pointer.text reason) else .ok v
  | .dropKey key, .object ms => .ok (.object (Members.erase ms key))
  | .title, v => .ok ((schema.bind (·.get? "title")).getD v)
  | _, v => .ok v

def visitor (name : String) (edit : Edit) : Visitor := ⟨name, edit.apply⟩

end Edit

end SchemaPipeline.Transform
