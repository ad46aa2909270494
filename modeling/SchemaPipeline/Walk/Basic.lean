import SchemaPipeline.Walk.Effective

/-!
# Walks

A walk takes a visitor through a value beside the schema that describes it. The visitor sees a node
before its children and may replace it; the children that are visited next are those of the
replacement. Members are visited in their order, elements by index, and the first failure ends the
walk.

A visitor may keep adding children, so a walk need not end. `walk` therefore carries a bound on the
depth, and a walk that meets the bound is `exhausted`, which is neither a value nor a failure of
the visitor. The trace lists the calls of the visitor in order, also those before a failure.
-/

namespace SchemaPipeline

inductive TransformError where
  | failed (pointer reason : String)
  | unresolved (reference pointer : String)
deriving DecidableEq, Repr

namespace TransformError

def message : TransformError → String
  | .failed pointer reason => "transform failed at '" ++ pointer ++ "': " ++ reason
  | .unresolved reference pointer =>
    "cannot resolve reference '" ++ reference ++ "' at '" ++ pointer ++ "'"

end TransformError

/-- A named transformation of nodes, from the node, its place and its effective schema. -/
structure Visitor where
  name : String
  visit : Value → Pointer → Option Value → Except TransformError Value

namespace Walk

/-- One call of a visitor. -/
structure Call where
  pointer : Pointer
  value : Value
  schema : Option Value

abbrev Trace := List Call

inductive Stop where
  | failure (error : TransformError)
  | exhausted
deriving DecidableEq, Repr

abbrev Step (α : Type) := Trace × Except Stop α

/-- Two steps in a row, the second from the result of the first. -/
def Step.andThen {α β : Type} (s : Step α) (f : α → Step β) : Step β :=
  match s with
  | (trace, .error e) => (trace, .error e)
  | (trace, .ok a) =>
    let (more, result) := f a
    (trace ++ more, result)

def Step.map {α β : Type} (f : α → β) (s : Step α) : Step β := (s.1, s.2.map f)

/-- Members in their order, each replaced. -/
def visitMembers (child : String → Value → Step Value) : Members → Step Members
  | [] => ([], .ok [])
  | (k, v) :: rest =>
    Step.andThen (child k v) fun v =>
      Step.map ((k, v) :: ·) (visitMembers child rest)

/-- Elements from an index on, each replaced. -/
def visitItems (child : Nat → Value → Step Value) : Nat → List Value → Step (List Value)
  | _, [] => ([], .ok [])
  | i, v :: rest =>
    Step.andThen (child i v) fun v =>
      Step.map (v :: ·) (visitItems child (i + 1) rest)

variable {κ : Type} [SchemaContext κ]

/-- The effective schema of a node with its context; a node may have no schema at all. -/
def nodeSchema (schema : Option Value) (context : Option κ) :
    Except String (Option Value × Option κ) :=
  match schema with
  | none => .ok (none, context)
  | some s => (effective s context).map fun (s, c) => (some s, c)

/-- A walk over a value whose nodes lie less than the given number deep. -/
def walk (visitor : Visitor) :
    Nat → Value → Pointer → Option Value → Option κ → Step Value
  | 0, _, _, _, _ => ([], .error .exhausted)
  | depth + 1, value, pointer, schema, context =>
    match nodeSchema schema context with
    | .error reference => ([], .error (.failure (.unresolved reference pointer.text)))
    | .ok (schema, context) =>
      let call : Call := ⟨pointer, value, schema⟩
      match visitor.visit value pointer schema with
      | .error e => ([call], .error (.failure e))
      | .ok (.object ms) =>
        Step.andThen ([call], .ok ()) fun _ =>
          Step.map Value.object
            (visitMembers (fun k v =>
              walk visitor depth v (pointer.push k)
                (schema.bind fun s => propertySchema s k) context) ms)
      | .ok (.array xs) =>
        Step.andThen ([call], .ok ()) fun _ =>
          Step.map Value.array
            (visitItems (fun i v =>
              walk visitor depth v (pointer.push (Pointer.indexToken i))
                (schema.bind fun s => itemSchema s i) context) 0 xs)
      | .ok leaf => ([call], .ok leaf)

/-- The walk from the root of a value, within a depth. -/
def run (visitor : Visitor) (depth : Nat) (value : Value) (schema : Option Value)
    (context : Option κ) : Step Value :=
  walk visitor depth value Pointer.root schema context

end Walk

end SchemaPipeline
