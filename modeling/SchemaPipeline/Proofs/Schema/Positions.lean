import SchemaPipeline.Proofs.Schema.Resources
import SchemaPipeline.Proofs.Walk.Order

/-!
# Positions of a document and the resources they belong to

Equal schemas may stand in several places of a document, in different resources.
So what belongs to a resource is a position, not a schema: a position is what
stands there together with the resource around it. The schemas of a document
have their positions in document order (`positions`), and a pointer leads to a
position whether a schema stands there or not (`locate`).

Both ways tell of the same resources: the one around a position is always listed
among the resources of the document, under its own scope (`mem_resources_of_locate`,
`mem_resources_of_positions`), and if it is not the document itself it is smaller.
-/

namespace SchemaPipeline

open SchemaTree

namespace Schema

/-- What stands somewhere in a document, with the innermost resource strictly
around it and the identifiers that lead to this resource. Around the document,
and around what lies in no embedded resource, is the document itself. -/
structure Position where
  schema : Value
  scope : List String
  owner : Value
  /-- Whether a resource inside the document starts here. -/
  starts : Bool

namespace Position

/-- Neither around the position nor at it is an embedded resource. -/
def Own (p : Position) : Prop := p.scope = [] ∧ p.starts = false

instance (p : Position) : Decidable p.Own :=
  inferInstanceAs (Decidable (_ ∧ _))

/-- The document as a whole. -/
def whole (document : Value) : Position := ⟨document, [], document, false⟩

end Position

/-! ## In document order -/

mutual

def positionsIn (scope : List String) (owner : Value) : SchemaTree → List Position
  | .node s cs =>
    match resourceId? s with
    | some id => ⟨s, scope, owner, true⟩ :: positionsInAll (scope ++ [id]) s cs
    | none => ⟨s, scope, owner, false⟩ :: positionsInAll scope owner cs

def positionsInAll (scope : List String) (owner : Value) :
    List SchemaTree → List Position
  | [] => []
  | t :: rest => positionsIn scope owner t ++ positionsInAll scope owner rest

end

/-- The positions of the schemas of a document. -/
def positions (document : Value) : List Position :=
  .whole document :: positionsInAll [] document document.schemaTree.children

mutual

theorem map_schema_positionsIn : ∀ (t : SchemaTree) (scope : List String)
    (owner : Value), (positionsIn scope owner t).map Position.schema = t.preorder
  | .node s cs, scope, owner => by
      rw [positionsIn, preorder]
      cases resourceId? s with
      | some id => exact congrArg (s :: ·) (map_schema_positionsInAll cs _ _)
      | none => exact congrArg (s :: ·) (map_schema_positionsInAll cs _ _)
termination_by structural t => t

theorem map_schema_positionsInAll : ∀ (ts : List SchemaTree)
    (scope : List String) (owner : Value),
    (positionsInAll scope owner ts).map Position.schema = preorderAll ts
  | [], scope, owner => rfl
  | t :: rest, scope, owner => by
      rw [positionsInAll, preorderAll, List.map_append,
        map_schema_positionsIn t, map_schema_positionsInAll rest]
termination_by structural ts => ts

end

/-- The positions are those of the schemas of the document. -/
theorem map_schema_positions (document : Value) :
    (positions document).map Position.schema = document.schemas := by
  obtain ⟨cs, htree⟩ := schemaTree_eq document
  rw [positions, Value.schemas, htree, preorder, List.map_cons]
  exact congrArg (document :: ·) (map_schema_positionsInAll cs _ _)

mutual

/-- The resource around a position is the one that everything lies in, or one
of those that are embedded there. -/
theorem around_of_positionsIn : ∀ (t : SchemaTree) (scope : List String)
    (owner : Value) (p : Position), p ∈ positionsIn scope owner t →
    (p.scope, p.owner) = (scope, owner) ∨
      (p.scope, p.owner) ∈ embeddedAll scope [t]
  | .node s cs, scope, owner, p, hp => by
      rw [positionsIn] at hp
      rw [embeddedAll, embeddedAll, List.append_nil]
      cases hid : resourceId? s with
      | some id =>
          rw [hid] at hp
          rw [embedded]
          rcases List.mem_cons.1 hp with rfl | hp
          · exact .inl rfl
          · rcases around_of_positionsInAll cs _ _ p hp with heq | hmem
            · exact .inr (heq ▸ List.mem_cons_self)
            · exact .inr (List.mem_cons_of_mem _ hmem)
      | none =>
          rw [hid] at hp
          rw [embedded]
          rcases List.mem_cons.1 hp with rfl | hp
          · exact .inl rfl
          · exact around_of_positionsInAll cs _ _ p hp
termination_by structural t => t

theorem around_of_positionsInAll : ∀ (ts : List SchemaTree)
    (scope : List String) (owner : Value) (p : Position),
    p ∈ positionsInAll scope owner ts →
    (p.scope, p.owner) = (scope, owner) ∨
      (p.scope, p.owner) ∈ embeddedAll scope ts
  | [], scope, owner, p, hp => by
      rw [positionsInAll] at hp
      cases hp
  | .node s cs :: rest, scope, owner, p, hp => by
      rw [positionsInAll] at hp
      rw [embeddedAll]
      rcases List.mem_append.1 hp with hp | hp
      · refine (around_of_positionsIn (.node s cs) scope owner p hp).imp_right ?_
        rw [embeddedAll, embeddedAll, List.append_nil]
        exact List.mem_append_left _
      · exact (around_of_positionsInAll rest scope owner p hp).imp_right
          (List.mem_append_right _)
termination_by structural ts => ts

end

/-- Around a position of a document is one of its resources. -/
theorem mem_resources_of_positions {document : Value} {p : Position}
    (hp : p ∈ positions document) : (p.scope, p.owner) ∈ resources document := by
  obtain ⟨cs, htree⟩ := schemaTree_eq document
  rw [positions, htree] at hp
  rw [resources, inner, htree, embedded]
  rcases List.mem_cons.1 hp with rfl | hp
  · exact List.mem_cons_self
  · rcases around_of_positionsInAll cs _ _ p hp with heq | hmem
    · exact heq ▸ List.mem_cons_self
    · exact List.mem_cons_of_mem _ hmem

/-! ## Along a pointer -/

/-- What a part of a document is to the schemas in it: a schema, a list or a map
of schemas, or nothing to them. -/
inductive Part where
  | schema
  | list
  | named
  | data
deriving DecidableEq, Repr

namespace Part

/-- What is under a keyword of a schema. -/
def ofKeyword (keyword : String) (w : Value) : Part :=
  match KeywordRole.ofKeyword keyword, w with
  | .one, _ => .schema
  | .oneOrList, .array _ => .list
  | .oneOrList, _ => .schema
  | .list, .array _ => .list
  | .named, .object _ => .named
  | _, _ => .data

/-- What a child is, under a token. -/
def child : Part → Value → String → Value → Part
  | .schema, .object _, token, w => ofKeyword token w
  | .list, .array _, _, _ => .schema
  | .named, .object _, _, .array _ => .data
  | .named, .object _, _, _ => .schema
  | _, _, _, _ => .data

/-- The schemas that lie in a part, as trees. -/
def trees : Part → Value → List SchemaTree
  | .schema, v => [v.schemaTree]
  | .list, .array xs => itemTrees xs
  | .named, .object ms => namedTrees ms
  | _, _ => []

end Part

/-- The resource around what lies in a part: the part itself, if it is a schema
that starts a resource. -/
def inside (scope : List String) (owner : Value) (part : Part) (v : Value) :
    List String × Value :=
  match part, resourceId? v with
  | .schema, some id => (scope ++ [id], v)
  | _, _ => (scope, owner)

/-- The position that tokens lead to from a part of a document. -/
def locateFrom (scope : List String) (owner : Value) :
    Part → Value → List String → Option Position
  | part, v, [] =>
    some ⟨v, scope, owner, part = .schema ∧ (resourceId? v).isSome⟩
  | part, v, token :: rest =>
    (Pointer.child? v token).bind fun w =>
      locateFrom (inside scope owner part v).1 (inside scope owner part v).2
        (part.child v token w) w rest

/-- The position of a document that tokens lead to. -/
def locate (document : Value) : List String → Option Position
  | [] => some (.whole document)
  | token :: rest =>
    (Pointer.child? document token).bind fun w =>
      locateFrom [] document (Part.schema.child document token w) w rest

theorem locateFrom_schema (scope : List String) (owner : Value) (part : Part)
    (v : Value) (tokens : List String) :
    (locateFrom scope owner part v tokens).map Position.schema =
      Pointer.descend tokens v := by
  induction tokens generalizing scope owner part v with
  | nil => rw [locateFrom, Pointer.descend, Option.map_some]
  | cons token rest ih =>
      rw [locateFrom, Pointer.descend, Option.map_bind]
      congr 1
      funext w
      exact ih _ _ _ w

/-- What stands at a position is what its pointer resolves to. -/
theorem locate_schema (document : Value) (tokens : List String) :
    (locate document tokens).map Position.schema =
      Pointer.descend tokens document := by
  cases tokens with
  | nil => rfl
  | cons token rest =>
      rw [locate, Pointer.descend, Option.map_bind]
      congr 1
      funext w
      exact locateFrom_schema _ _ _ w rest

/-! ### The resources on the way -/

theorem embeddedAll_append (scope : List String) (ts us : List SchemaTree) :
    embeddedAll scope (ts ++ us) = embeddedAll scope ts ++ embeddedAll scope us := by
  induction ts with
  | nil => rw [List.nil_append, embeddedAll, List.nil_append]
  | cons t rest ih =>
      obtain ⟨s, cs⟩ := t
      rw [List.cons_append, embeddedAll, embeddedAll, ih, List.append_assoc]

theorem embeddedAll_subset (scope : List String) {t : SchemaTree}
    {ts : List SchemaTree} (h : t ∈ ts) :
    embeddedAll scope [t] ⊆ embeddedAll scope ts := by
  obtain ⟨before, after, rfl⟩ := List.append_of_mem h
  have hsplit : embeddedAll scope (before ++ t :: after) =
      embeddedAll scope before ++
        (embeddedAll scope [t] ++ embeddedAll scope after) := by
    rw [embeddedAll_append, ← List.singleton_append, embeddedAll_append]
  rw [hsplit]
  exact List.Subset.trans (List.subset_append_left ..)
    (List.subset_append_right ..)

theorem tree_mem_itemTrees {xs : List Value} {x : Value} (h : x ∈ xs) :
    x.schemaTree ∈ itemTrees xs := by
  induction xs with
  | nil => cases h
  | cons y rest ih =>
      rw [itemTrees]
      rcases List.mem_cons.1 h with rfl | h
      · exact List.mem_cons_self
      · exact List.mem_cons_of_mem _ (ih h)

theorem tree_mem_namedTrees {ms : Members} {k : String} {v : Value}
    (h : (k, v) ∈ ms) (harray : v.isArray = false) :
    v.schemaTree ∈ namedTrees ms := by
  induction ms with
  | nil => cases h
  | cons e rest ih =>
      obtain ⟨k', v'⟩ := e
      rcases List.mem_cons.1 h with heq | hrest
      · cases heq
        cases v with
        | array xs => cases harray
        | _ => exact List.mem_cons_self
      · have := ih hrest
        cases v' with
        | array xs => exact this
        | _ => exact List.mem_cons_of_mem _ this

theorem heldTrees_subset {ms : Members} {k : String} {v : Value}
    (h : (k, v) ∈ ms) : heldTrees k v ⊆ memberTrees ms := by
  induction ms with
  | nil => cases h
  | cons e rest ih =>
      obtain ⟨k', v'⟩ := e
      rw [memberTrees_cons]
      rcases List.mem_cons.1 h with heq | hrest
      · cases heq
        exact List.subset_append_left ..
      · exact List.Subset.trans (ih hrest) (List.subset_append_right ..)

/-- What lies under a keyword lies in the part that it is. -/
theorem Part.trees_ofKeyword (k : String) (w : Value) :
    (Part.ofKeyword k w).trees w = heldTrees k w := by
  unfold Part.ofKeyword heldTrees
  cases KeywordRole.ofKeyword k <;> cases w <;> rfl

/-- What lies in a child lies in the part around it; in a schema, below its
root. -/
theorem Part.trees_child (part : Part) {v w : Value} {token : String}
    (h : Pointer.child? v token = some w) :
    (part.child v token w).trees w ⊆
      if part = .schema then v.schemaTree.children else part.trees v := by
  cases part with
  | schema =>
      rw [if_pos rfl]
      cases v with
      | object ms =>
          rw [Part.child, Part.trees_ofKeyword, Value.schemaTree]
          exact heldTrees_subset (Members.mem_of_find? h)
      | _ => exact List.nil_subset _
  | list =>
      rw [if_neg (by decide)]
      cases v with
      | array xs =>
          obtain ⟨i, -, hw⟩ := Option.bind_eq_some_iff.1 h
          exact List.cons_subset.2
            ⟨tree_mem_itemTrees (List.mem_of_getElem? hw), List.nil_subset _⟩
      | _ => exact List.nil_subset _
  | named =>
      rw [if_neg (by decide)]
      cases v with
      | object ms =>
          have hmem := Members.mem_of_find? h
          cases w with
          | array xs => exact List.nil_subset _
          | _ =>
              exact List.cons_subset.2
                ⟨tree_mem_namedTrees hmem rfl, List.nil_subset _⟩
      | _ => exact List.nil_subset _
  | data =>
      rw [if_neg (by decide)]
      exact List.nil_subset _

theorem embeddedAll_mono (scope : List String) {ts us : List SchemaTree}
    (h : ts ⊆ us) : embeddedAll scope ts ⊆ embeddedAll scope us := by
  induction ts with
  | nil =>
      rw [embeddedAll]
      exact List.nil_subset _
  | cons t rest ih =>
      obtain ⟨ht, hrest⟩ := List.cons_subset.1 h
      rw [← List.singleton_append, embeddedAll_append]
      exact List.append_subset.2 ⟨embeddedAll_subset scope ht, ih hrest⟩

theorem embeddedAll_singleton (scope : List String) (v : Value) :
    embeddedAll scope [v.schemaTree] =
      match resourceId? v with
      | some id =>
        (scope ++ [id], v) :: embeddedAll (scope ++ [id]) v.schemaTree.children
      | none => embeddedAll scope v.schemaTree.children := by
  obtain ⟨cs, htree⟩ := schemaTree_eq v
  rw [htree, embeddedAll, embeddedAll, List.append_nil]
  cases resourceId? v with
  | some id => simp only [embedded, children]
  | none => simp only [embedded, children]

/-- What is below a part lies inside the resource that it starts, and this
resource is embedded there. -/
theorem around_of_inside (scope : List String) (owner : Value) {part : Part}
    {v : Value} {ts : List SchemaTree}
    (h : ts ⊆ if part = .schema then v.schemaTree.children else part.trees v) :
    (inside scope owner part v = (scope, owner) ∨
        inside scope owner part v ∈ embeddedAll scope (part.trees v)) ∧
      embeddedAll (inside scope owner part v).1 ts ⊆
        embeddedAll scope (part.trees v) := by
  cases part with
  | schema =>
      rw [if_pos rfl] at h
      rw [Part.trees, embeddedAll_singleton]
      unfold inside
      cases resourceId? v with
      | some id =>
          exact ⟨.inr List.mem_cons_self,
            List.subset_cons_of_subset _ (embeddedAll_mono _ h)⟩
      | none => exact ⟨.inl rfl, embeddedAll_mono _ h⟩
  | _ =>
      rw [if_neg (by decide)] at h
      exact ⟨.inl rfl, embeddedAll_mono _ h⟩

theorem around_of_locateFrom {scope : List String} {owner : Value} {part : Part}
    {v : Value} {tokens : List String} {p : Position}
    (h : locateFrom scope owner part v tokens = some p) :
    (p.scope, p.owner) = (scope, owner) ∨
      (p.scope, p.owner) ∈ embeddedAll scope (part.trees v) := by
  induction tokens generalizing scope owner part v with
  | nil =>
      rw [locateFrom] at h
      cases h
      exact .inl rfl
  | cons token rest ih =>
      rw [locateFrom] at h
      obtain ⟨w, hw, h⟩ := Option.bind_eq_some_iff.1 h
      obtain ⟨hinside, hbelow⟩ :=
        around_of_inside scope owner (Part.trees_child part hw)
      rcases ih h with heq | hmem
      · rw [heq]
        exact hinside
      · exact .inr (hbelow hmem)

/-- Around the position that a pointer leads to is a resource of the
document. -/
theorem mem_resources_of_locate {document : Value} {tokens : List String}
    {p : Position} (h : locate document tokens = some p) :
    (p.scope, p.owner) ∈ resources document := by
  cases tokens with
  | nil =>
      cases h
      exact List.mem_cons_self
  | cons token rest =>
      obtain ⟨w, hw, h⟩ := Option.bind_eq_some_iff.1 h
      have htrees := Part.trees_child .schema hw
      rw [if_pos rfl] at htrees
      rw [resources]
      rcases around_of_locateFrom h with heq | hmem
      · exact heq ▸ List.mem_cons_self
      · refine List.mem_cons_of_mem _ ?_
        obtain ⟨cs, htree⟩ := schemaTree_eq document
        have hmem := embeddedAll_mono [] htrees hmem
        rw [htree] at hmem
        rw [inner, htree, embedded]
        exact hmem

/-! ## Resources are smaller than the document -/

theorem exists_tree_of_mem_preorderAll {ts : List SchemaTree} {s : Value}
    (h : s ∈ preorderAll ts) : ∃ t ∈ ts, s ∈ t.preorder := by
  induction ts with
  | nil =>
      rw [preorderAll] at h
      cases h
  | cons t rest ih =>
      rw [preorderAll] at h
      rcases List.mem_append.1 h with h | h
      · exact ⟨t, List.mem_cons_self, h⟩
      · obtain ⟨t', ht', hs⟩ := ih h
        exact ⟨t', List.mem_cons_of_mem _ ht', hs⟩

theorem exists_of_mem_itemTrees {xs : List Value} {t : SchemaTree}
    (h : t ∈ itemTrees xs) : ∃ x ∈ xs, t = x.schemaTree := by
  induction xs with
  | nil => cases h
  | cons y rest ih =>
      rw [itemTrees] at h
      rcases List.mem_cons.1 h with rfl | h
      · exact ⟨y, List.mem_cons_self, rfl⟩
      · obtain ⟨x, hx, ht⟩ := ih h
        exact ⟨x, List.mem_cons_of_mem _ hx, ht⟩

theorem exists_of_mem_namedTrees {ms : Members} {t : SchemaTree}
    (h : t ∈ namedTrees ms) : ∃ k v, (k, v) ∈ ms ∧ t = v.schemaTree := by
  induction ms with
  | nil => cases h
  | cons e rest ih =>
      obtain ⟨k', v'⟩ := e
      have hrest : t ∈ namedTrees rest →
          ∃ k v, (k, v) ∈ (k', v') :: rest ∧ t = v.schemaTree := by
        intro h
        obtain ⟨k, v, hmem, ht⟩ := ih h
        exact ⟨k, v, List.mem_cons_of_mem _ hmem, ht⟩
      cases v' with
      | array xs => exact hrest h
      | _ =>
          rcases List.mem_cons.1 h with rfl | h
          · exact ⟨k', _, List.mem_cons_self, rfl⟩
          · exact hrest h

/-- Under a keyword lie the trees of values that are no larger than what is
under it. -/
theorem exists_of_mem_heldTrees {k : String} {v : Value} {t : SchemaTree}
    (h : t ∈ heldTrees k v) :
    ∃ w : Value, t = w.schemaTree ∧ w.size ≤ v.size := by
  have hself : t ∈ [v.schemaTree] →
      ∃ w : Value, t = w.schemaTree ∧ w.size ≤ v.size :=
    fun h => ⟨v, List.mem_singleton.1 h, Nat.le_refl _⟩
  have hitems : ∀ xs, v = .array xs → t ∈ itemTrees xs →
      ∃ w : Value, t = w.schemaTree ∧ w.size ≤ v.size := by
    rintro xs rfl h
    obtain ⟨x, hx, ht⟩ := exists_of_mem_itemTrees h
    exact ⟨x, ht, Nat.le_of_lt (Walk.size_child hx)⟩
  unfold heldTrees at h
  generalize KeywordRole.ofKeyword k = role at h
  cases role with
  | one => exact hself h
  | oneOrList =>
      cases v with
      | array xs => exact hitems xs rfl h
      | _ => exact hself h
  | list =>
      cases v with
      | array xs => exact hitems xs rfl h
      | _ => cases h
  | named =>
      cases v with
      | object ms =>
          obtain ⟨k', w, hmem, ht⟩ := exists_of_mem_namedTrees h
          exact ⟨w, ht, Nat.le_of_lt (Walk.size_lt_of_mem hmem)⟩
      | _ => cases h
  | data => cases h

theorem exists_of_mem_memberTrees {ms : Members} {t : SchemaTree}
    (h : t ∈ memberTrees ms) : ∃ k v, (k, v) ∈ ms ∧ t ∈ heldTrees k v := by
  induction ms with
  | nil => cases h
  | cons e rest ih =>
      obtain ⟨k', v'⟩ := e
      rw [memberTrees_cons] at h
      rcases List.mem_append.1 h with h | h
      · exact ⟨k', v', List.mem_cons_self, h⟩
      · obtain ⟨k, v, hmem, ht⟩ := ih h
        exact ⟨k, v, List.mem_cons_of_mem _ hmem, ht⟩

/-- Directly below a schema lie the trees of smaller ones. -/
theorem exists_of_mem_children {v : Value} {t : SchemaTree}
    (h : t ∈ v.schemaTree.children) :
    ∃ w : Value, t = w.schemaTree ∧ w.size < v.size := by
  cases v with
  | object ms =>
      rw [Value.schemaTree, children] at h
      obtain ⟨k, v, hmem, ht⟩ := exists_of_mem_memberTrees h
      obtain ⟨w, hw, hle⟩ := exists_of_mem_heldTrees ht
      exact ⟨w, hw, Nat.lt_of_le_of_lt hle (Walk.size_lt_of_mem hmem)⟩
  | _ => cases h

/-- What lies inside a schema is smaller. -/
theorem size_lt_of_mem_below {v s : Value}
    (h : s ∈ preorderAll v.schemaTree.children) : s.size < v.size := by
  induction hsize : v.size using Nat.strongRecOn generalizing v with
  | ind size ih =>
      obtain ⟨t, ht, hs⟩ := exists_tree_of_mem_preorderAll h
      obtain ⟨w, rfl, hlt⟩ := exists_of_mem_children ht
      obtain ⟨cs, htree⟩ := schemaTree_eq w
      rw [htree, preorder] at hs
      rcases List.mem_cons.1 hs with rfl | hs
      · omega
      · have hbelow : s ∈ preorderAll w.schemaTree.children := by
          rw [htree]
          exact hs
        have := ih w.size (by omega) hbelow rfl
        omega

mutual

theorem schema_of_embedded : ∀ (t : SchemaTree) (scope : List String)
    (e : List String × Value), e ∈ embedded scope t →
    e.2 ∈ preorderAll t.children
  | .node s cs, scope, e, he => by
      rw [embedded] at he
      exact schema_of_embeddedAll cs scope e he
termination_by structural t => t

theorem schema_of_embeddedAll : ∀ (ts : List SchemaTree) (scope : List String)
    (e : List String × Value), e ∈ embeddedAll scope ts → e.2 ∈ preorderAll ts
  | [], scope, e, he => by
      rw [embeddedAll] at he
      cases he
  | .node s cs :: rest, scope, e, he => by
      rw [embeddedAll] at he
      rw [preorderAll, preorder]
      rcases List.mem_append.1 he with he | he
      · refine List.mem_append_left _ ?_
        cases hid : resourceId? s with
        | some id =>
            rw [hid] at he
            rcases List.mem_cons.1 he with rfl | he
            · exact List.mem_cons_self
            · exact List.mem_cons_of_mem _
                (schema_of_embedded (.node s cs) _ e he)
        | none =>
            rw [hid] at he
            exact List.mem_cons_of_mem _
              (schema_of_embedded (.node s cs) _ e he)
      · exact List.mem_append_right _ (schema_of_embeddedAll rest scope e he)
termination_by structural ts => ts

end

/-- An embedded resource is smaller than the document. -/
theorem size_lt_of_mem_inner {document : Value} {e : List String × Value}
    (he : e ∈ inner document) : e.2.size < document.size :=
  size_lt_of_mem_below (schema_of_embedded document.schemaTree [] e he)

/-- The scope of an embedded resource names it. -/
theorem scope_ne_nil {document : Value} {e : List String × Value}
    (he : e ∈ inner document) : e.1 ≠ [] := by
  obtain ⟨outer, id, -, heq, -⟩ := resources_around he
  rw [heq]
  exact List.append_ne_nil_of_right_ne_nil _ (List.cons_ne_nil _ _)

end Schema

end SchemaPipeline
