import SchemaPipeline.Proofs.Schema.References

/-!
# The resources that a document declares

A schema that names itself declares a resource, under the URL that its identifier
leads to from the base in force where it stands. This is the URL of the nearest
schema around it whose identifier leads anywhere, so an identifier that does not
is passed over, and what is inside it is seen from further out (`InForce`).

The resources are entered into a table in document order, and a name that is taken
keeps its document. So a table gains one entry for each name that is new to it:
the first schema in document order that declares it (`indexResources_adds`).
-/

namespace SchemaPipeline

open SchemaTree

namespace Documents

/-- A table gains one entry for each new name in a list, the first one under this
name. -/
theorem insertAllNew_adds (d : Documents) (es : List (String × Value)) :
    ∃ added, (d.insertAllNew es).entries = d.entries ++ added ∧
      (added.map Prod.fst).Nodup ∧
      ∀ name v, (name, v) ∈ added ↔
        d.find? name = none ∧ Members.find? es name = some v := by
  induction es generalizing d with
  | nil => exact ⟨[], (List.append_nil _).symm, List.nodup_nil, by simp⟩
  | cons e rest ih =>
      obtain ⟨added, hentries, hnodup, hmem⟩ := ih (d.insertNew e.1 e.2)
      rw [show d.insertAllNew (e :: rest) =
        (d.insertNew e.1 e.2).insertAllNew rest from rfl, hentries]
      simp only [find?_insertNew, Option.or_eq_none_iff] at hmem
      -- a name that is taken adds nothing here, nor further on
      by_cases htaken : d.contains e.1 = true
      · refine ⟨added, by rw [insertNew, if_pos htaken], hnodup, fun name v => ?_⟩
        rw [hmem, and_assoc]
        refine and_congr_right fun hnew => ?_
        have hname : e.1 ≠ name := by
          rintro rfl
          rw [contains, hnew] at htaken
          cases htaken
        simp [Members.find?, hname]
      · have hnew : d.find? e.1 = none := by
          rwa [contains, Option.not_isSome_iff_eq_none] at htaken
        refine ⟨e :: added, ?_, ?_, fun name v => ?_⟩
        · rw [insertNew, if_neg htaken, List.append_assoc, List.singleton_append]
        · refine List.nodup_cons.2 ⟨fun hagain => ?_, hnodup⟩
          obtain ⟨e', he', hname⟩ := List.mem_map.1 hagain
          have hother := ((hmem e'.1 e'.2).1 he').1.2
          simp [Members.find?, hname] at hother
        · obtain ⟨own, w⟩ := e
          rw [List.mem_cons, hmem, Prod.mk.injEq]
          by_cases hname : own = name
          · subst hname
            simp [Members.find?, hnew, eq_comm]
          · simp [Members.find?, hname, Ne.symm hname]

end Documents

namespace Schema

/-! ## The base in force -/

section

variable (base : Url) (document : Value) (p : Place)

/-- The base in force at a place of a document. -/
def baseAt (base : Url) : Value → Place → Url
  | _, [] => base
  | v, i :: rest =>
    match v.subschemas[i]? with
    | some w => baseAt (innerBase base v) w rest
    | none => innerBase base v

/-- The URL that the identifier of the schema in a place leads to. -/
def urlAt : Option Url :=
  (idAt document p).bind (baseAt base document p).join?

/-- The name under which the schema in a place is declared. -/
def nameAt : Option String :=
  (urlAt base document p).map fun u => Reference.normalize u.text

/-- A place is strictly around another one. -/
def Around (q p : Place) : Prop := q <+: p ∧ q ≠ p

/-- The URL of the nearest place around a place whose identifier leads anywhere,
or the base of the document. -/
def InForce (u : Url) : Prop :=
  (u = base ∧ ∀ q, Around q p → urlAt base document q = none) ∨
    ∃ q, Around q p ∧ urlAt base document q = some u ∧
      ∀ r, Around r p → (urlAt base document r).isSome = true → r <+: q

end

section

variable {base : Url} {v w : Value} {i : Nat}

theorem innerBase_eq : innerBase base v = (urlAt base v []).getD base := rfl

theorem nameAt_nil : nameAt base v [] = declaredName? base v := rfl

theorem baseAt_cons (h : v.subschemas[i]? = some w) (p : Place) :
    baseAt base v (i :: p) = baseAt (innerBase base v) w p := by
  rw [baseAt, h]

theorem urlAt_cons (h : v.subschemas[i]? = some w) (p : Place) :
    urlAt base v (i :: p) = urlAt (innerBase base v) w p := by
  rw [urlAt, idAt_cons h, baseAt_cons h, urlAt]

theorem nameAt_cons (h : v.subschemas[i]? = some w) (p : Place) :
    nameAt base v (i :: p) = nameAt (innerBase base v) w p := by
  rw [nameAt, urlAt_cons h, nameAt]

theorem urlAt_of_none (h : v.subschemas[i]? = none) (p : Place) :
    urlAt base v (i :: p) = none := by
  rw [urlAt, idAt, schemaAt, h]
  rfl

theorem around_cons_iff {q p : Place} :
    Around q (i :: p) ↔ q = [] ∨ ∃ r, q = i :: r ∧ Around r p := by
  constructor
  · rintro ⟨hstart, hne⟩
    cases q with
    | nil => exact .inl rfl
    | cons j r =>
        obtain ⟨rfl, hr⟩ := List.cons_prefix_cons.1 hstart
        exact .inr ⟨r, rfl, hr, fun heq => hne (heq ▸ rfl)⟩
  · rintro (rfl | ⟨r, rfl, hr, hne⟩)
    · exact And.intro List.nil_prefix (List.cons_ne_nil i p).symm
    · exact ⟨List.cons_prefix_cons.2 ⟨rfl, hr⟩, fun heq => hne (List.cons.inj heq).2⟩

/-- Where no identifier on the way leads anywhere the document itself decides. -/
theorem inForce_innerBase {p : Place}
    (h : ∀ r, Around r p → urlAt base v (i :: r) = none) :
    InForce base v (i :: p) (innerBase base v) := by
  rw [innerBase_eq]
  cases hroot : urlAt base v [] with
  | none =>
      refine .inl ⟨rfl, fun q hq => ?_⟩
      rcases around_cons_iff.1 hq with rfl | ⟨r, rfl, hr⟩
      · exact hroot
      · exact h r hr
  | some u =>
      refine .inr ⟨[], around_cons_iff.2 (.inl rfl), hroot, fun q hq hsome => ?_⟩
      rcases around_cons_iff.1 hq with rfl | ⟨r, rfl, hr⟩
      · exact List.prefix_rfl
      · rw [h r hr] at hsome
        cases hsome

theorem inForce_baseAt (base : Url) (v : Value) (p : Place) :
    InForce base v p (baseAt base v p) := by
  -- from the outside in: each step down has a new document and a new base
  induction p generalizing base v with
  | nil =>
      refine .inl ⟨rfl, fun q hq => ?_⟩
      exact absurd (List.prefix_nil.1 hq.1) hq.2
  | cons i p ih =>
      cases hchild : v.subschemas[i]? with
      | none =>
          rw [baseAt, hchild]
          exact inForce_innerBase fun r _ => urlAt_of_none hchild r
      | some w =>
          rw [baseAt_cons hchild]
          rcases ih (innerBase base v) w with ⟨hbase, hnone⟩ | ⟨q, hq, hurl, hlast⟩
          · rw [hbase]
            exact inForce_innerBase fun r hr => by rw [urlAt_cons hchild, hnone r hr]
          · refine .inr ⟨i :: q, around_cons_iff.2 (.inr ⟨q, rfl, hq⟩), ?_,
              fun r hr hsome => ?_⟩
            · rw [urlAt_cons hchild, hurl]
            · rcases around_cons_iff.1 hr with rfl | ⟨r, rfl, hbelow⟩
              · exact List.nil_prefix
              · rw [urlAt_cons hchild] at hsome
                exact List.cons_prefix_cons.2 ⟨rfl, hlast r hbelow hsome⟩

/-! ## The walk along the places -/

/-- What the schema in a place declares. -/
def entryAt (base : Url) (v : Value) (p : Place) : Option (String × Value) :=
  (nameAt base v p).bind fun name => (schemaAt v p).map (name, ·)

theorem entryAt_nil : entryAt base v [] = (declaredName? base v).map (·, v) := by
  rw [entryAt, nameAt_nil, schemaAt]
  cases declaredName? base v <;> rfl

theorem entryAt_cons (h : v.subschemas[i]? = some w) (p : Place) :
    entryAt base v (i :: p) = entryAt (innerBase base v) w p := by
  rw [entryAt, nameAt_cons h, schemaAt_cons h, entryAt]

end

-- A place counts the siblings before it, so the second half keeps them at hand.
mutual

/-- The resources that a schema declares are those of its places, in order. -/
theorem declared_eq : ∀ (t : SchemaTree) (v : Value) (base : Url),
    v.schemaTree = t → declared base t = t.places.filterMap (entryAt base v)
  | .node s cs, v, base, h => by
      obtain ⟨_, htree⟩ := schemaTree_eq v
      rw [h] at htree
      cases htree
      rw [declared, declaredAll_eq_places cs s [] base (by rw [h]; rfl),
        SchemaTree.places, List.filterMap_cons, entryAt_nil]
      cases declaredName? base s <;> rfl
termination_by structural t => t

theorem declaredAll_eq_places : ∀ (ts : List SchemaTree) (v : Value)
    (before : List SchemaTree) (base : Url),
    v.schemaTree.children = before ++ ts →
    declaredAll (innerBase base v) ts =
      (placesFrom ts before.length).filterMap (entryAt base v)
  | [], v, before, base, _ => rfl
  | t :: rest, v, before, base, h => by
      obtain ⟨w, hw, hchild⟩ := exists_child h
      have hrest := declaredAll_eq_places rest v (before ++ [t]) base
        (by rw [h, List.append_assoc, List.singleton_append])
      rw [List.length_append, List.length_singleton] at hrest
      rw [declaredAll, hrest, placesFrom, List.filterMap_append,
        List.filterMap_map, declared_eq t w _ hw.symm]
      congr 1
      exact List.filterMap_congr fun p _ => (entryAt_cons hchild p).symm
termination_by structural ts => ts

end

mutual

/-- The schemas in the places of a document, in document order. -/
theorem preorder_places : ∀ (t : SchemaTree) (v : Value), v.schemaTree = t →
    t.places.map (schemaAt v) = t.preorder.map some
  | .node s cs, v, h => by
      obtain ⟨_, htree⟩ := schemaTree_eq v
      rw [h] at htree
      cases htree
      rw [SchemaTree.places, preorder, List.map_cons, List.map_cons]
      exact congrArg (some s :: ·) (preorder_placesFrom cs s [] (by rw [h]; rfl))
termination_by structural t => t

theorem preorder_placesFrom : ∀ (ts : List SchemaTree) (v : Value)
    (before : List SchemaTree), v.schemaTree.children = before ++ ts →
    (placesFrom ts before.length).map (schemaAt v) = (preorderAll ts).map some
  | [], v, before, _ => rfl
  | t :: rest, v, before, h => by
      obtain ⟨w, hw, hchild⟩ := exists_child h
      have hrest := preorder_placesFrom rest v (before ++ [t])
        (by rw [h, List.append_assoc, List.singleton_append])
      rw [List.length_append, List.length_singleton] at hrest
      rw [placesFrom, preorderAll, List.map_append, List.map_append, hrest,
        List.map_map, ← preorder_places t w hw.symm]
      congr 1
      exact List.map_congr_left fun p _ => schemaAt_cons hchild p
termination_by structural ts => ts

end

theorem schemaAt_of_nameAt {base : Url} {v : Value} {p : Place} {name : String}
    (h : nameAt base v p = some name) : ∃ s, schemaAt v p = some s := by
  rw [nameAt, urlAt, idAt] at h
  obtain ⟨u, hu, -⟩ := Option.map_eq_some_iff.1 h
  obtain ⟨id, hid, -⟩ := Option.bind_eq_some_iff.1 hu
  obtain ⟨s, hs, -⟩ := Option.bind_eq_some_iff.1 hid
  exact ⟨s, hs⟩

/-- Under a name is the schema in the first place that declares it. -/
theorem find?_filterMap_entryAt (base : Url) (v : Value) (ps : List Place)
    (name : String) :
    Members.find? (ps.filterMap (entryAt base v)) name =
      (ps.find? fun p => nameAt base v p = some name).bind (schemaAt v) := by
  induction ps with
  | nil => rfl
  | cons p rest ih =>
      rw [List.filterMap_cons, entryAt, List.find?_cons]
      cases hname : nameAt base v p with
      | none => simpa using ih
      | some own =>
          obtain ⟨s, hs⟩ := schemaAt_of_nameAt hname
          rw [hs, Option.bind_some, Option.map_some]
          simp only [Members.find?, beq_iff_eq]
          by_cases hown : own = name
          · simp [hown, hs]
          · simpa [hown] using ih

/-- A table gains the resources of a document: an entry for each new name, and no
other. The name is the one that an identifier leads to from the base in force, and
the entry is the first schema in document order that declares it. -/
theorem indexResources_adds (document : Value) (base : Url) (table : Documents) :
    (places document).map (schemaAt document) = document.schemas.map some ∧
    (∀ p, InForce base document p (baseAt base document p)) ∧
    ∃ added,
      (indexResources document base table).entries = table.entries ++ added ∧
      (added.map Prod.fst).Nodup ∧
      ∀ name v, (name, v) ∈ added ↔ table.find? name = none ∧
        ((places document).find? fun p =>
          nameAt base document p = some name).bind (schemaAt document) = some v := by
  refine ⟨preorder_places _ document rfl, inForce_baseAt base document, ?_⟩
  simp only [← find?_filterMap_entryAt, places, ← declared_eq _ document base rfl]
  exact table.insertAllNew_adds (declared base document.schemaTree)

end Schema

end SchemaPipeline
