import SchemaPipeline.Reference.Resolution
import SchemaPipeline.Schema.Resource

/-!
# Effective schemas

The schema that describes a node is what the chain of its references ends in. Each link is resolved
in the context of the resource it stands in, so a schema with an identifier of its own is entered
before its reference is followed. A chain may have `maxHops` links; the reference that would be one
too many, or that has no target, is the error.
-/

namespace SchemaPipeline.Walk

variable {κ : Type} [SchemaContext κ]

def maxHops : Nat := 32

/-- The context inside a schema: that of the resource it starts, where this is known. -/
def enterResource (schema : Value) (context : Option κ) : Option κ :=
  match Schema.resourceId? schema, context with
  | some id, some c => some ((SchemaContext.document c id).getD c)
  | _, _ => context

/-- Follows at most the given number of references. The error is the text of a reference. -/
def follow : Nat → Value → Option κ → Except String (Value × Option κ)
  | hops, schema, context =>
    let context := enterResource schema context
    match Schema.reference? schema with
    | none => .ok (schema, context)
    | some reference =>
      match hops with
      | 0 => .error reference
      | hops + 1 =>
        match Reference.resolve reference context with
        | .error _ => .error reference
        | .ok none => .ok (schema, context)
        | .ok (some target) => follow hops target.schema (some target.context)

def effective (schema : Value) (context : Option κ) : Except String (Value × Option κ) :=
  follow maxHops schema context

/-! ## Schemas of children -/

/-- The object under a key that may also hold something else. -/
def objectUnder (schema : Value) (key : String) : Option Value :=
  (schema.get? key).filter Value.isObject

/-- The schema of a member: the one declared for its key, or the one for additional members. -/
def propertySchema (schema : Value) (key : String) : Option Value :=
  ((schema.get? "properties").bind (·.get? key)).or (objectUnder schema "additionalProperties")

/-- The schema of an element: the one of its place in a tuple, or the one for the others. -/
def itemSchema (schema : Value) (index : Nat) : Option Value :=
  match schema.get? "prefixItems" with
  | some (.array tuple) => tuple[index]?.or (objectUnder schema "items")
  | _ =>
    match schema.get? "items" with
    | some (.object ms) => some (.object ms)
    | some (.array tuple) => tuple[index]?.or (objectUnder schema "additionalItems")
    | _ => none

end SchemaPipeline.Walk
