import SchemaPipeline.Proofs.Schema.Positions

/-!
# Places of schemas

A schema in a document has a place: at each level, which of the schemas directly
inside comes next. Equal schemas may stand in several places, but in each place
there is only one. The order of the document is the order of the places, where a
place comes before those inside it and otherwise the first difference decides
(`sorted_places`).

What is directly inside a schema is said by `Subschema`, keyword by keyword,
without a tree.
-/

namespace SchemaPipeline

open SchemaTree

namespace Schema

/-- Which schema comes next, from a document down to a schema inside it. -/
abbrev Place := List Nat

/-- The schema at a place of a document. -/
def schemaAt : Value → Place → Option Value
  | v, [] => some v
  | v, i :: rest => v.subschemas[i]?.bind fun w => schemaAt w rest

/-- A schema holds another one directly: under a keyword for a schema, in the
list under a keyword for schemas, or under a name in a map of schemas, where a
list is no schema. -/
inductive Subschema : Value → Value → Prop where
  | single {ms : Members} {k : String} {v : Value} (hmem : (k, v) ∈ ms)
      (hkey : k ∈ KeywordRole.singleKeywords ∨ k = "items" ∧ v.isArray = false) :
      Subschema (.object ms) v
  | element {ms : Members} {k : String} {xs : List Value} {x : Value}
      (hmem : (k, .array xs) ∈ ms)
      (hkey : k ∈ KeywordRole.listKeywords ∨ k = "items") (hx : x ∈ xs) :
      Subschema (.object ms) x
  | named {ms ns : Members} {k n : String} {x : Value}
      (hmem : (k, .object ns) ∈ ms) (hkey : k ∈ KeywordRole.namedKeywords)
      (hx : (n, x) ∈ ns) (hschema : x.isArray = false) :
      Subschema (.object ms) x

end Schema

/-! ## Keywords -/

namespace KeywordRole

/-- The keywords with a role. -/
def Holds : KeywordRole → String → Prop
  | .oneOrList, k => k = "items"
  | .one, k => k ∈ singleKeywords
  | .list, k => k ∈ listKeywords
  | .named, k => k ∈ namedKeywords
  | .data, _ => True

theorem holds_ofKeyword (k : String) : (ofKeyword k).Holds k := by
  fun_cases ofKeyword k with
  | case1 h => exact beq_iff_eq.1 h
  | case2 _ h => exact List.contains_iff_mem.1 h
  | case3 _ _ h => exact List.contains_iff_mem.1 h
  | case4 _ _ _ h => exact List.contains_iff_mem.1 h
  | case5 => trivial

theorem ofKeyword_single : ∀ k ∈ singleKeywords, ofKeyword k = .one := by decide

theorem ofKeyword_list : ∀ k ∈ listKeywords, ofKeyword k = .list := by decide

theorem ofKeyword_named : ∀ k ∈ namedKeywords, ofKeyword k = .named := by decide

end KeywordRole

/-! ## The schemas directly inside -/

theorem schema_schemaTree (v : Value) : v.schemaTree.schema = v := by
  cases v <;> rfl

theorem mem_itemTrees_iff {xs : List Value} {x : Value} :
    x ∈ (itemTrees xs).map schema ↔ x ∈ xs := by
  induction xs with
  | nil => exact Iff.rfl
  | cons y rest ih =>
      rw [itemTrees, List.map_cons, List.mem_cons, List.mem_cons, ih,
        schema_schemaTree]

theorem mem_namedTrees_iff {ns : Members} {x : Value} :
    x ∈ (namedTrees ns).map schema ↔ ∃ n, (n, x) ∈ ns ∧ x.isArray = false := by
  induction ns with
  | nil => exact ⟨nofun, nofun⟩
  | cons e rest ih =>
      obtain ⟨n, v⟩ := e
      cases v with
      | array xs =>
          rw [namedTrees, ih]
          refine exists_congr fun m => and_congr_left fun harray => ?_
          rw [List.mem_cons, or_iff_right]
          rintro heq
          cases heq
          cases harray
      | _ =>
          simp only [namedTrees, List.map_cons, List.mem_cons, ih,
            schema_schemaTree]
          constructor
          · rintro (rfl | ⟨m, hmem, harray⟩)
            · exact ⟨n, .inl rfl, rfl⟩
            · exact ⟨m, .inr hmem, harray⟩
          · rintro ⟨m, heq | hmem, harray⟩
            · cases heq
              exact .inl rfl
            · exact .inr ⟨m, hmem, harray⟩

theorem mem_memberTrees_iff {ms : Members} {w : Value} :
    w ∈ (memberTrees ms).map schema ↔
      ∃ k v, (k, v) ∈ ms ∧ w ∈ (heldTrees k v).map schema := by
  induction ms with
  | nil => exact ⟨nofun, nofun⟩
  | cons e rest ih =>
      obtain ⟨k, v⟩ := e
      rw [memberTrees_cons, List.map_append, List.mem_append, ih]
      constructor
      · rintro (hheld | ⟨k', v', hmem, hheld⟩)
        · exact ⟨k, v, List.mem_cons_self, hheld⟩
        · exact ⟨k', v', List.mem_cons_of_mem _ hmem, hheld⟩
      · rintro ⟨k', v', hmem, hheld⟩
        rcases List.mem_cons.1 hmem with heq | hmem
        · cases heq
          exact .inl hheld
        · exact .inr ⟨k', v', hmem, hheld⟩

namespace Schema

theorem subschema_of_held {ms : Members} {k : String} {v w : Value}
    (hmem : (k, v) ∈ ms) (h : w ∈ (heldTrees k v).map schema) :
    Subschema (.object ms) w := by
  have hrole := KeywordRole.holds_ofKeyword k
  unfold heldTrees at h
  generalize KeywordRole.ofKeyword k = role at h hrole
  cases role with
  | one =>
      rw [List.map_singleton, List.mem_singleton, schema_schemaTree] at h
      exact h ▸ .single hmem (.inl hrole)
  | oneOrList =>
      cases v with
      | array xs => exact .element hmem (.inr hrole) (mem_itemTrees_iff.1 h)
      | _ =>
          rw [List.map_singleton, List.mem_singleton, schema_schemaTree] at h
          exact h ▸ .single hmem (.inr ⟨hrole, rfl⟩)
  | list =>
      cases v with
      | array xs => exact .element hmem (.inl hrole) (mem_itemTrees_iff.1 h)
      | _ => cases h
  | named =>
      cases v with
      | object ns =>
          obtain ⟨n, hx, harray⟩ := mem_namedTrees_iff.1 h
          exact .named hmem hrole hx harray
      | _ => cases h
  | data => cases h

theorem held_of_subschema {ms : Members} {w : Value}
    (h : Subschema (.object ms) w) :
    ∃ k v, (k, v) ∈ ms ∧ w ∈ (heldTrees k v).map schema := by
  cases h with
  | @single _ k v hmem hkey =>
      refine ⟨k, w, hmem, ?_⟩
      have hself : w ∈ [w.schemaTree].map schema := by
        rw [List.map_singleton, schema_schemaTree]
        exact List.mem_singleton_self w
      unfold heldTrees
      rcases hkey with hkey | ⟨rfl, harray⟩
      · rw [KeywordRole.ofKeyword_single k hkey]
        exact hself
      · rw [role_items]
        cases w with
        | array xs => cases harray
        | _ => exact hself
  | @element _ k xs _ hmem hkey hx =>
      refine ⟨k, .array xs, hmem, ?_⟩
      unfold heldTrees
      rcases hkey with hkey | rfl
      · rw [KeywordRole.ofKeyword_list k hkey]
        exact mem_itemTrees_iff.2 hx
      · rw [role_items]
        exact mem_itemTrees_iff.2 hx
  | @named _ ns k n _ hmem hkey hx harray =>
      refine ⟨k, .object ns, hmem, ?_⟩
      unfold heldTrees
      rw [KeywordRole.ofKeyword_named k hkey]
      exact mem_namedTrees_iff.2 ⟨n, hx, harray⟩

/-- What is directly inside a schema stands under its keywords for schemas. -/
theorem mem_subschemas_iff {s w : Value} : w ∈ s.subschemas ↔ Subschema s w := by
  cases s with
  | object ms =>
      have hchildren : (Value.object ms).subschemas = (memberTrees ms).map schema := by
        rw [Value.subschemas, Value.schemaTree, children]
      rw [hchildren, mem_memberTrees_iff]
      refine ⟨?_, held_of_subschema⟩
      rintro ⟨k, v, hmem, hheld⟩
      exact subschema_of_held hmem hheld
  | _ =>
      constructor
      · intro h
        cases h
      · intro h
        cases h

end Schema

/-! ## Places in a tree -/

namespace SchemaTree

mutual

/-- The places of the schemas of a tree, in document order. -/
def places : SchemaTree → List Schema.Place
  | .node _ cs => [] :: placesFrom cs 0

/-- The places in trees that come one after the other, from a place on. -/
def placesFrom : List SchemaTree → Nat → List Schema.Place
  | [], _ => []
  | t :: rest, i => t.places.map (i :: ·) ++ placesFrom rest (i + 1)

end

/-- The schema at a place of a tree. -/
def schemaAt : SchemaTree → Schema.Place → Option Value
  | .node s _, [] => some s
  | .node _ cs, i :: rest => cs[i]?.bind fun t => t.schemaAt rest

theorem exists_of_mem_placesFrom {ts : List SchemaTree} {i : Nat}
    {p : Schema.Place} (h : p ∈ placesFrom ts i) :
    ∃ k rest, p = k :: rest ∧ i ≤ k := by
  induction ts generalizing i with
  | nil =>
      rw [placesFrom] at h
      cases h
  | cons t ts ih =>
      rw [placesFrom] at h
      rcases List.mem_append.1 h with h | h
      · obtain ⟨b, -, rfl⟩ := List.mem_map.1 h
        exact ⟨i, b, rfl, Nat.le_refl i⟩
      · obtain ⟨k, rest, rfl, hk⟩ := ih h
        exact ⟨k, rest, rfl, by omega⟩

theorem ne_nil_of_mem_placesFrom {ts : List SchemaTree} {i : Nat}
    {p : Schema.Place} (h : p ∈ placesFrom ts i) : p ≠ [] := by
  obtain ⟨k, rest, rfl, -⟩ := exists_of_mem_placesFrom h
  exact List.cons_ne_nil k rest

/-- The places in a tree begin with another number than those in the trees after
it. -/
theorem placesFrom_apart (t : SchemaTree) (ts : List SchemaTree) (i : Nat) :
    ∀ p ∈ t.places.map (i :: ·), ∀ q ∈ placesFrom ts (i + 1),
      p.head? ≠ q.head? := by
  intro p hp q hq heq
  obtain ⟨_, -, rfl⟩ := List.mem_map.1 hp
  obtain ⟨k, _, rfl, hk⟩ := exists_of_mem_placesFrom hq
  cases heq
  omega

mutual

/-- The places are those at which there is a schema. -/
theorem mem_places_iff : ∀ (t : SchemaTree) (p : Schema.Place),
    p ∈ t.places ↔ (t.schemaAt p).isSome = true
  | .node s cs, [] => by
      rw [places, schemaAt]
      exact ⟨fun _ => rfl, fun _ => List.mem_cons_self⟩
  | .node s cs, k :: rest => by
      rw [places, schemaAt, List.mem_cons, or_iff_right (List.cons_ne_nil _ _),
        mem_placesFrom_iff cs 0 k rest]
      simp
termination_by structural t => t

theorem mem_placesFrom_iff : ∀ (ts : List SchemaTree) (i k : Nat)
    (rest : Schema.Place), k :: rest ∈ placesFrom ts i ↔
      i ≤ k ∧ (ts[k - i]?.bind fun t => t.schemaAt rest).isSome = true
  | [], i, k, rest => by
      rw [placesFrom]
      simp
  | t :: ts, i, k, rest => by
      rw [placesFrom, List.mem_append, mem_placesFrom_iff ts (i + 1) k rest]
      have hfirst : k :: rest ∈ t.places.map (i :: ·) ↔
          k = i ∧ rest ∈ t.places := by
        rw [List.mem_map]
        constructor
        · rintro ⟨b, hb, heq⟩
          cases heq
          exact ⟨rfl, hb⟩
        · rintro ⟨rfl, hb⟩
          exact ⟨rest, hb, rfl⟩
      rw [hfirst, mem_places_iff t rest]
      rcases Nat.lt_trichotomy k i with hlt | rfl | hgt
      · simp [show k ≠ i by omega, show ¬ i + 1 ≤ k by omega,
          show ¬ i ≤ k by omega]
      · simp [show ¬ k + 1 ≤ k by omega]
      · obtain ⟨d, rfl⟩ : ∃ d, k = i + (d + 1) := ⟨k - i - 1, by omega⟩
        simp [show i + (d + 1) - (i + 1) = d by omega,
          show i + (d + 1) - i = d + 1 by omega]
termination_by structural ts => ts

end

mutual

theorem sorted_places : ∀ t : SchemaTree, t.places.Pairwise (· < ·)
  | .node s cs => by
      rw [places]
      refine List.pairwise_cons.2 ⟨fun p hp => ?_, sorted_placesFrom cs 0⟩
      obtain ⟨k, rest, rfl, -⟩ := exists_of_mem_placesFrom hp
      exact List.nil_lt_cons k rest
termination_by structural t => t

theorem sorted_placesFrom : ∀ (ts : List SchemaTree) (i : Nat),
    (placesFrom ts i).Pairwise (· < ·)
  | [], i => by
      rw [placesFrom]
      exact .nil
  | t :: ts, i => by
      rw [placesFrom]
      refine List.pairwise_append.2 ⟨?_, sorted_placesFrom ts (i + 1), ?_⟩
      · refine List.pairwise_map.2 ((sorted_places t).imp fun h => ?_)
        exact List.cons_lt_cons_iff.2 (.inr ⟨rfl, h⟩)
      · intro p hp q hq
        obtain ⟨front, -, rfl⟩ := List.mem_map.1 hp
        obtain ⟨k, back, rfl, hk⟩ := exists_of_mem_placesFrom hq
        exact List.cons_lt_cons_iff.2 (.inl (by omega))
termination_by structural ts => ts

end

end SchemaTree

namespace Schema

/-- The places of the schemas of a document, in document order. -/
def places (document : Value) : List Place := document.schemaTree.places

theorem schemaAt_schemaTree (document : Value) (p : Place) :
    document.schemaTree.schemaAt p = schemaAt document p := by
  induction p generalizing document with
  | nil =>
      obtain ⟨cs, htree⟩ := schemaTree_eq document
      rw [htree]
      rfl
  | cons i rest ih =>
      obtain ⟨cs, htree⟩ := schemaTree_eq document
      have hchildren : document.subschemas = cs.map schema := by
        rw [Value.subschemas, htree, children]
      rw [htree, SchemaTree.schemaAt, schemaAt, hchildren, List.getElem?_map]
      cases hchild : cs[i]? with
      | none => rfl
      | some t =>
          have hmem : t ∈ document.schemaTree.children := by
            rw [htree]
            exact List.mem_of_getElem? hchild
          obtain ⟨w, rfl, -⟩ := exists_of_mem_children hmem
          rw [Option.map_some, Option.bind_some, Option.bind_some,
            schema_schemaTree, ih]

/-- What comes after some of the trees inside a schema is the schema at the next
place. -/
theorem exists_child {v : Value} {before rest : List SchemaTree} {t : SchemaTree}
    (h : v.schemaTree.children = before ++ t :: rest) :
    ∃ w, t = w.schemaTree ∧ v.subschemas[before.length]? = some w := by
  obtain ⟨w, rfl, -⟩ := exists_of_mem_children
    (show t ∈ v.schemaTree.children by rw [h]; simp)
  refine ⟨w, rfl, ?_⟩
  rw [Value.subschemas, h, List.getElem?_map,
    List.getElem?_append_right (Nat.le_refl _), Nat.sub_self,
    List.getElem?_cons_zero, Option.map_some, schema_schemaTree]

/-- The places of a document are those at which there is a schema, in order. -/
theorem places_spec (document : Value) :
    (places document).Pairwise (· < ·) ∧
      ∀ p, p ∈ places document ↔ (schemaAt document p).isSome = true := by
  refine ⟨sorted_places _, fun p => ?_⟩
  rw [places, mem_places_iff, schemaAt_schemaTree]

end Schema

end SchemaPipeline
