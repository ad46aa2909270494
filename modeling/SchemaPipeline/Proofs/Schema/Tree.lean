import SchemaPipeline.Schema.Resource
import SchemaPipeline.Walk.Effective

/-!
# Schemas in a schema

The schemas that a keyword holds, one by one, and the ones that a schema has for
the children of a value.
-/

namespace SchemaPipeline

open SchemaTree

/-- The schemas of a document, from the outside in. -/
def Value.schemas (v : Value) : List Value := v.schemaTree.preorder

theorem Value.mem_schemas_self (v : Value) : v ∈ v.schemas := by
  cases v <;> simp [Value.schemas, Value.schemaTree, preorder]

/-- The schemas that a member of a schema holds. -/
def heldTrees (k : String) (v : Value) : List SchemaTree :=
  match KeywordRole.ofKeyword k with
  | .one => [v.schemaTree]
  | .oneOrList =>
    match v with
    | .array xs => itemTrees xs
    | w => [w.schemaTree]
  | .list =>
    match v with
    | .array xs => itemTrees xs
    | _ => []
  | .named =>
    match v with
    | .object ms => namedTrees ms
    | _ => []
  | .data => []

theorem memberTrees_cons (k : String) (v : Value) (rest : Members) :
    memberTrees ((k, v) :: rest) = heldTrees k v ++ memberTrees rest := by
  cases v <;> rfl

/-! ## The schemas of children -/

theorem role_items : KeywordRole.ofKeyword "items" = .oneOrList := by decide

namespace Walk

/-- What a schema has for children: the schema of a property, an element of a
tuple, or an object under a keyword for the others. -/
inductive Provides (s w : Value) : Prop where
  | property {properties : Value} {key : String}
      (hget : s.get? "properties" = some properties)
      (hw : properties.get? key = some w)
  | element {keyword : String} {tuple : List Value} {i : Nat}
      (hkeyword : keyword = "prefixItems" ∨ keyword = "items")
      (hget : s.get? keyword = some (.array tuple)) (hw : tuple[i]? = some w)
  | others {keyword : String}
      (hkeyword : keyword = "additionalProperties" ∨ keyword = "items" ∨
        keyword = "additionalItems")
      (hget : s.get? keyword = some w) (hobject : w.isObject = true)

theorem provides_of_objectUnder {s w : Value} {keyword : String}
    (hkeyword : keyword = "additionalProperties" ∨ keyword = "items" ∨
      keyword = "additionalItems")
    (h : objectUnder s keyword = some w) : Provides s w := by
  obtain ⟨hget, hobject⟩ := Option.filter_eq_some_iff.1 h
  exact .others hkeyword hget hobject

theorem provides_of_propertySchema {s w : Value} {key : String}
    (h : propertySchema s key = some w) : Provides s w := by
  unfold propertySchema at h
  rcases Option.or_eq_some_iff.1 h with h | ⟨-, h⟩
  · obtain ⟨properties, hget, hw⟩ := Option.bind_eq_some_iff.1 h
    exact .property hget hw
  · exact provides_of_objectUnder (.inl rfl) h

theorem provides_of_itemSchema {s w : Value} {i : Nat}
    (h : itemSchema s i = some w) : Provides s w := by
  unfold itemSchema at h
  split at h
  · next tuple hget =>
      rcases Option.or_eq_some_iff.1 h with hw | ⟨-, h⟩
      · exact .element (.inl rfl) hget hw
      · exact provides_of_objectUnder (.inr (.inl rfl)) h
  · split at h
    · next ms hget =>
        cases h
        exact .others (.inr (.inl rfl)) hget rfl
    · next tuple hget =>
        rcases Option.or_eq_some_iff.1 h with hw | ⟨-, h⟩
        · exact .element (.inr rfl) hget hw
        · exact provides_of_objectUnder (.inr (.inr rfl)) h
    · cases h

end Walk

end SchemaPipeline
