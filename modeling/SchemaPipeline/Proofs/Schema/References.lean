import SchemaPipeline.Proofs.Lists
import SchemaPipeline.Proofs.Schema.Places

/-!
# References by resource

The references of a document are gathered in one walk, which begins an entry
where an embedded resource begins and goes on with the entry around it where the
resource ends. What comes out can be said without the walk: there is one entry
for each resource, in document order, and it holds the references from the places
around which there is no resource further in (`collectReferences_by_resource`).

The order of the entries is that of the places where resources begin. So the
schemas inside one schema need no look at each other: what belongs to a place
below one of them begins with the number of this one.
-/

namespace SchemaPipeline

open SchemaTree

namespace Schema

/-! ## Resources around a place -/

section

variable (document : Value) (p : Place)

/-- The identifier that the schema in a place declares for itself. -/
def idAt : Option String := (schemaAt document p).bind resourceId?

/-- The reference that the schema in a place holds. -/
def referenceAt : Option String := (schemaAt document p).bind reference?

/-- An embedded resource begins in a place below the root whose schema declares
an identifier. -/
def EmbeddedAt : Prop := p ≠ [] ∧ (idAt document p).isSome = true

instance : Decidable (EmbeddedAt document p) :=
  inferInstanceAs (Decidable (_ ∧ _))

/-- A resource begins in a place. -/
def ResourceAt : Prop := p = [] ∨ EmbeddedAt document p

instance : Decidable (ResourceAt document p) :=
  inferInstanceAs (Decidable (_ ∨ _))

/-- Where the embedded resources around a place begin, from the outside in. One
that begins in the place itself is among them. -/
def embeddedAround : List Place := p.inits.filter (EmbeddedAt document ·)

/-- Where the innermost resource around a place begins. -/
def ownerAt : Place := (embeddedAround document p).getLast?.getD []

/-- The identifiers of the embedded resources around a place. -/
def scopeAt : List String :=
  (embeddedAround document p).filterMap (idAt document)

/-- The references from those of the places that belong to a resource. -/
def heldBy (ps : List Place) (r : Place) : List String :=
  (ps.filter (ownerAt document · = r)).filterMap (referenceAt document)

/-- The entries of the embedded resources that begin in the places. -/
def entries (scope : List String) (ps : List Place) : List ResourceReferences :=
  (ps.filter (EmbeddedAt document ·)).map fun r =>
    ⟨scope ++ scopeAt document r, heldBy document ps r⟩

end

theorem mem_embeddedAround_iff {document : Value} {p q : Place} :
    q ∈ embeddedAround document p ↔ q <+: p ∧ EmbeddedAt document q := by
  rw [embeddedAround, List.mem_filter, List.mem_inits, decide_eq_true_iff]

theorem ownerAt_cases (document : Value) (p : Place) :
    (embeddedAround document p = [] ∧ ownerAt document p = []) ∨
      ∃ h : embeddedAround document p ≠ [],
        ownerAt document p = (embeddedAround document p).getLast h := by
  by_cases h : embeddedAround document p = []
  · exact .inl ⟨h, by rw [ownerAt, h]; rfl⟩
  · exact .inr ⟨h, by rw [ownerAt, List.getLast?_eq_getLast_of_ne_nil h]; rfl⟩

/-- The resource a place belongs to is around it, and inside all the others that
are. -/
theorem ownerAt_innermost (document : Value) (p : Place) :
    ResourceAt document (ownerAt document p) ∧ ownerAt document p <+: p ∧
      ∀ r, ResourceAt document r → r <+: p → r <+: ownerAt document p := by
  rcases ownerAt_cases document p with ⟨hnil, howner⟩ | ⟨hne, howner⟩
  · refine ⟨.inl howner, howner ▸ List.nil_prefix, ?_⟩
    rintro r (rfl | hr) haround
    · exact List.nil_prefix
    · have hmem := mem_embeddedAround_iff.2 ⟨haround, hr⟩
      rw [hnil] at hmem
      cases hmem
  · obtain ⟨haround, hembedded⟩ :=
      mem_embeddedAround_iff.1 (List.getLast_mem hne)
    rw [howner]
    refine ⟨.inr hembedded, haround, ?_⟩
    rintro r (rfl | hr) hrp
    · exact List.nil_prefix
    · have hsorted : (embeddedAround document p).Pairwise (· <+: ·) :=
        (pairwise_inits p).sublist List.filter_sublist
      exact hsorted.rel_getLast (mem_embeddedAround_iff.2 ⟨hrp, hr⟩)

/-! ## Below a schema directly inside -/

section

variable {v w : Value} {i : Nat}

theorem schemaAt_cons (h : v.subschemas[i]? = some w) (p : Place) :
    schemaAt v (i :: p) = schemaAt w p := by
  rw [schemaAt, h, Option.bind_some]

theorem idAt_cons (h : v.subschemas[i]? = some w) (p : Place) :
    idAt v (i :: p) = idAt w p := by
  rw [idAt, schemaAt_cons h, idAt]

theorem referenceAt_cons (h : v.subschemas[i]? = some w) (p : Place) :
    referenceAt v (i :: p) = referenceAt w p := by
  rw [referenceAt, schemaAt_cons h, referenceAt]

theorem embeddedAt_cons (h : v.subschemas[i]? = some w) {p : Place}
    (hp : p ≠ []) : EmbeddedAt v (i :: p) ↔ EmbeddedAt w p := by
  rw [EmbeddedAt, EmbeddedAt, idAt_cons h]
  exact and_congr_left fun _ => iff_of_true (List.cons_ne_nil _ _) hp

/-- What is embedded below a schema is embedded in it, and it may be embedded
itself. -/
theorem filter_embeddedAt_cons (h : v.subschemas[i]? = some w) {ps : List Place}
    (hps : ∀ p ∈ ps, p ≠ []) :
    (([] :: ps).map (i :: ·)).filter (EmbeddedAt v ·) =
      (resourceId? w).toList.map (fun _ => [i]) ++
        (([] :: ps).filter (EmbeddedAt w ·)).map (i :: ·) := by
  have hroot : EmbeddedAt v [i] ↔ (resourceId? w).isSome = true := by
    rw [EmbeddedAt, idAt_cons h]
    exact and_iff_right (List.cons_ne_nil _ _)
  have hrest : (ps.map (i :: ·)).filter (EmbeddedAt v ·) =
      (ps.filter (EmbeddedAt w ·)).map (i :: ·) := by
    rw [List.filter_map]
    congr 1
    refine List.filter_congr fun p hp => ?_
    exact decide_eq_decide.2 (embeddedAt_cons h (hps p hp))
  rw [List.map_cons, List.filter_cons,
    List.filter_cons_of_neg (by simp [EmbeddedAt]), hrest]
  simp only [decide_eq_true_eq, hroot]
  cases resourceId? w <;> rfl

theorem embeddedAround_cons (h : v.subschemas[i]? = some w) (p : Place) :
    embeddedAround v (i :: p) =
      (resourceId? w).toList.map (fun _ => [i]) ++
        (embeddedAround w p).map (i :: ·) := by
  have hinits : ∃ qs : List Place, p.inits = [] :: qs ∧ ∀ q ∈ qs, q ≠ [] := by
    cases p with
    | nil => exact ⟨[], rfl, nofun⟩
    | cons j rest =>
        refine ⟨_, List.inits_cons .., fun q hq => ?_⟩
        obtain ⟨_, -, rfl⟩ := List.mem_map.1 hq
        exact List.cons_ne_nil _ _
  obtain ⟨qs, heq, hqs⟩ := hinits
  rw [embeddedAround, embeddedAround, List.inits_cons,
    List.filter_cons_of_neg (by simp [EmbeddedAt]), heq,
    filter_embeddedAt_cons h hqs]

theorem scopeAt_cons (h : v.subschemas[i]? = some w) (p : Place) :
    scopeAt v (i :: p) = (resourceId? w).toList ++ scopeAt w p := by
  have hid : idAt v [i] = resourceId? w := idAt_cons h []
  rw [scopeAt, embeddedAround_cons h, List.filterMap_append, scopeAt]
  congr 1
  · cases hw : resourceId? w with
    | none => rfl
    | some id => simp [hid, hw]
  · rw [List.filterMap_map]
    exact List.filterMap_congr fun q _ => idAt_cons h q

theorem ownerAt_cons (h : v.subschemas[i]? = some w) (p : Place) :
    ownerAt v (i :: p) =
      if (resourceId? w).isSome = true ∨ ownerAt w p ≠ [] then
        i :: ownerAt w p
      else [] := by
  rw [ownerAt, embeddedAround_cons h, List.getLast?_append, List.getLast?_map]
  rcases ownerAt_cases w p with ⟨hnil, howner⟩ | ⟨hne, howner⟩
  · rw [hnil, howner]
    cases resourceId? w <;> simp
  · have hmem := mem_embeddedAround_iff.1 (List.getLast_mem hne)
    rw [List.getLast?_eq_getLast_of_ne_nil hne, howner, if_pos (.inr hmem.2.1)]
    rfl

theorem ownerAt_cons_eq_iff (h : v.subschemas[i]? = some w) {p r : Place}
    (hr : (resourceId? w).isSome = true ∨ r ≠ []) :
    ownerAt v (i :: p) = i :: r ↔ ownerAt w p = r := by
  rw [ownerAt_cons h]
  split
  · exact ⟨fun heq => (List.cons.inj heq).2, fun heq => heq ▸ rfl⟩
  · next hnot =>
      rw [not_or, not_not] at hnot
      rw [hnot.2]
      exact iff_of_false (List.cons_ne_nil _ _).symm
        (hr.resolve_left hnot.1).symm

theorem ownerAt_cons_eq_nil_iff (h : v.subschemas[i]? = some w) {p : Place} :
    ownerAt v (i :: p) = [] ↔ resourceId? w = none ∧ ownerAt w p = [] := by
  rw [ownerAt_cons h, ite_eq_right_iff, ← Option.not_isSome_iff_eq_none]
  constructor
  · intro hnot
    exact ⟨fun hid => List.cons_ne_nil _ _ (hnot (.inl hid)),
      by_contra fun hne => List.cons_ne_nil _ _ (hnot (.inr hne))⟩
  · rintro ⟨hid, hnil⟩ (hsome | hne)
    · exact absurd hsome hid
    · exact absurd hnil hne

end

/-! ## What the walk gathers -/

section

variable {v w : Value} {i : Nat}

theorem heldBy_append (ps qs : List Place) (r : Place) :
    heldBy v (ps ++ qs) r = heldBy v ps r ++ heldBy v qs r := by
  rw [heldBy, List.filter_append, List.filterMap_append, heldBy, heldBy]

theorem heldBy_eq_nil {ps : List Place} {r : Place}
    (h : ∀ p ∈ ps, ownerAt v p ≠ r) : heldBy v ps r = [] := by
  rw [heldBy, List.filter_eq_nil_iff.2 fun p hp => by simpa using h p hp]
  rfl

theorem heldBy_map_cons (h : v.subschemas[i]? = some w) {ps : List Place}
    {r s : Place} (hr : ∀ p, ownerAt v (i :: p) = s ↔ ownerAt w p = r) :
    heldBy v (ps.map (i :: ·)) s = heldBy w ps r := by
  rw [heldBy, List.filter_map, List.filterMap_map, heldBy]
  have howner : (fun q => decide (ownerAt v q = s)) ∘ (i :: ·) =
      fun p => decide (ownerAt w p = r) :=
    funext fun p => decide_eq_decide.2 (hr p)
  rw [howner]
  exact List.filterMap_congr fun p _ => referenceAt_cons h p

/-- What lies below a schema without an identifier belongs to the resource around
it, unless it is embedded below. -/
theorem heldBy_root_of_none (h : v.subschemas[i]? = some w)
    (hid : resourceId? w = none) (ps : List Place) :
    heldBy v (ps.map (i :: ·)) [] = heldBy w ps [] :=
  heldBy_map_cons h fun _ =>
    (ownerAt_cons_eq_nil_iff h).trans (and_iff_right hid)

theorem heldBy_root_of_some (h : v.subschemas[i]? = some w) {id : String}
    (hid : resourceId? w = some id) (ps : List Place) :
    heldBy v (ps.map (i :: ·)) [] = [] := by
  refine heldBy_eq_nil fun p hp => ?_
  obtain ⟨_, -, rfl⟩ := List.mem_map.1 hp
  rw [Ne, ownerAt_cons_eq_nil_iff h, hid]
  nofun

/-- A place belongs to no resource that begins in another branch. -/
theorem heldBy_apart {ps : List Place} {r : Place} (hne : r ≠ [])
    (h : ∀ p ∈ ps, p.head? ≠ r.head?) : heldBy v ps r = [] := by
  refine heldBy_eq_nil fun p hp heq => h p hp ?_
  obtain ⟨rest, hrest⟩ := (ownerAt_innermost v p).2.1
  rw [← hrest, heq, List.head?_append_of_ne_nil _ hne]

/-- The entries of places in different branches do not depend on each other. -/
theorem entries_append (scope : List String) {ps qs : List Place}
    (h : ∀ p ∈ ps, ∀ q ∈ qs, p.head? ≠ q.head?) :
    entries v scope (ps ++ qs) = entries v scope ps ++ entries v scope qs := by
  rw [entries, List.filter_append, List.map_append, entries, entries]
  congr 1
  · refine List.map_congr_left fun r hr => ?_
    obtain ⟨hmem, hembedded⟩ := List.mem_filter.1 hr
    rw [heldBy_append, heldBy_apart (of_decide_eq_true hembedded).1
      fun q hq => (h r hmem q hq).symm, List.append_nil]
  · refine List.map_congr_left fun r hr => ?_
    obtain ⟨hmem, hembedded⟩ := List.mem_filter.1 hr
    rw [heldBy_append, heldBy_apart (of_decide_eq_true hembedded).1
      fun p hp => h p hp r hmem, List.nil_append]

/-- No embedded resource begins in the root. -/
theorem entries_root (scope : List String) (ps : List Place) :
    entries v scope ([] :: ps) = entries v scope ps := by
  rw [entries, List.filter_cons_of_neg (by simp [EmbeddedAt]), entries]
  refine List.map_congr_left fun r hr => ?_
  have hembedded : EmbeddedAt v r := of_decide_eq_true (List.mem_filter.1 hr).2
  rw [← List.singleton_append, heldBy_append,
    heldBy_eq_nil fun p hp => List.mem_singleton.1 hp ▸ hembedded.1.symm,
    List.nil_append]

/-- Below a schema without an identifier the entries are its own. -/
theorem entries_map_cons_of_none (h : v.subschemas[i]? = some w)
    (hid : resourceId? w = none) (scope : List String) {ps : List Place}
    (hps : ∀ p ∈ ps, p ≠ []) :
    entries v scope (([] :: ps).map (i :: ·)) = entries w scope ([] :: ps) := by
  rw [entries, filter_embeddedAt_cons h hps, hid, Option.toList_none,
    List.map_nil, List.nil_append, List.map_map, entries]
  refine List.map_congr_left fun r hr => ?_
  have hembedded : EmbeddedAt w r := of_decide_eq_true (List.mem_filter.1 hr).2
  rw [Function.comp_apply, scopeAt_cons h, hid, Option.toList_none,
    List.nil_append,
    heldBy_map_cons h fun p => ownerAt_cons_eq_iff h (.inr hembedded.1)]

/-- Below a schema with an identifier they are inside it, and it has one of its
own before them. -/
theorem entries_map_cons_of_some (h : v.subschemas[i]? = some w) {id : String}
    (hid : resourceId? w = some id) (scope : List String) {ps : List Place}
    (hps : ∀ p ∈ ps, p ≠ []) :
    entries v scope (([] :: ps).map (i :: ·)) =
      ⟨scope ++ [id], heldBy w ([] :: ps) []⟩ ::
        entries w (scope ++ [id]) ([] :: ps) := by
  have hsome : (resourceId? w).isSome = true := by rw [hid]; rfl
  have hheld : ∀ r, heldBy v (([] :: ps).map (i :: ·)) (i :: r) =
      heldBy w ([] :: ps) r := fun r =>
    heldBy_map_cons h fun p => ownerAt_cons_eq_iff h (.inl hsome)
  rw [entries, filter_embeddedAt_cons h hps, hid, Option.toList_some,
    List.map_singleton, List.singleton_append, List.map_cons, List.map_map,
    entries, hheld, scopeAt_cons h, hid]
  congr 1
  refine List.map_congr_left fun r _ => ?_
  rw [Function.comp_apply, hheld, scopeAt_cons h, hid, Option.toList_some,
    List.append_assoc]

end

mutual

/-- The walk over a schema gathers what belongs to it and the entries of what is
embedded in it. -/
theorem gather_eq : ∀ (t : SchemaTree) (v : Value) (scope : List String),
    v.schemaTree = t →
    gather scope t = (heldBy v t.places [], entries v scope t.places)
  | .node s cs, v, scope, h => by
      obtain ⟨_, htree⟩ := schemaTree_eq v
      rw [h] at htree
      cases htree
      rw [gather, gatherAll_eq cs s [] scope (by rw [h]; rfl),
        SchemaTree.places, Gathered.append, entries_root,
        ← List.singleton_append, heldBy_append]
      rfl
termination_by structural t => t

theorem gatherAll_eq : ∀ (ts : List SchemaTree) (v : Value)
    (before : List SchemaTree) (scope : List String),
    v.schemaTree.children = before ++ ts →
    gatherAll scope ts =
      (heldBy v (placesFrom ts before.length) [],
        entries v scope (placesFrom ts before.length))
  | [], v, before, scope, _ => rfl
  | .node s cs :: rest, v, before, scope, h => by
      obtain ⟨w, hw, hchild⟩ := exists_child h
      obtain ⟨_, htree⟩ := schemaTree_eq w
      rw [← hw] at htree
      cases htree
      have hrest := gatherAll_eq rest v (before ++ [.node s cs]) scope
        (by rw [h, List.append_assoc, List.singleton_append])
      rw [List.length_append, List.length_singleton] at hrest
      have hbelow : ∀ p ∈ placesFrom cs 0, p ≠ [] := fun _ => ne_nil_of_mem_placesFrom
      rw [gatherAll, hrest, placesFrom, heldBy_append,
        entries_append scope (placesFrom_apart _ rest before.length),
        SchemaTree.places]
      cases hid : resourceId? s with
      | none =>
          simp only [gather_eq (.node s cs) s scope hw.symm, SchemaTree.places]
          rw [heldBy_root_of_none hchild hid,
            entries_map_cons_of_none hchild hid scope hbelow]
          rfl
      | some id =>
          simp only [gather_eq (.node s cs) s (scope ++ [id]) hw.symm,
            SchemaTree.places]
          rw [heldBy_root_of_some hchild hid,
            entries_map_cons_of_some hchild hid scope hbelow]
          rfl
termination_by structural ts => ts

end

/-- Every reference of a document is listed once, in document order, under the
innermost resource around it; the resources come in document order, with the
identifiers of the resources around them. -/
theorem collectReferences_by_resource (document : Value) :
    (∀ s w : Value, w ∈ s.subschemas ↔ Subschema s w) ∧
    (places document).Pairwise (· < ·) ∧
    (∀ p, p ∈ places document ↔ (schemaAt document p).isSome = true) ∧
    (∀ p, ResourceAt document (ownerAt document p) ∧
      ownerAt document p <+: p ∧
      ∀ r, ResourceAt document r → r <+: p → r <+: ownerAt document p) ∧
    collectReferences document =
      ((places document).filter (ResourceAt document ·)).map fun r =>
        ⟨scopeAt document r,
          ((places document).filter (ownerAt document · = r)).filterMap
            (referenceAt document)⟩ := by
  obtain ⟨hsorted, hplaces⟩ := places_spec document
  refine ⟨fun _ _ => mem_subschemas_iff, hsorted, hplaces,
    ownerAt_innermost document, ?_⟩
  obtain ⟨cs, htree⟩ := schemaTree_eq document
  have hroot : places document = [] :: placesFrom cs 0 := by
    rw [places, htree, SchemaTree.places]
  have hresources : (places document).filter (ResourceAt document ·) =
      [] :: (places document).filter (EmbeddedAt document ·) := by
    rw [hroot, List.filter_cons_of_pos (by simp [ResourceAt]),
      List.filter_cons_of_neg (by simp [EmbeddedAt])]
    refine congrArg _ (List.filter_congr fun p hp => decide_eq_decide.2 ?_)
    exact or_iff_right (ne_nil_of_mem_placesFrom hp)
  rw [collectReferences, gather_eq _ document [] rfl, hresources]
  rfl

/-- What follows an embedded resource belongs to the one around it again. -/
example : collectReferences (.object [
    ("properties", .object [
      ("a", .object [("$id", .string "a.json"), ("$ref", .string "x.json")]),
      ("b", .object [("$ref", .string "y.json")])]),
    ("const", .object [("$ref", .string "z.json")])]) =
    [⟨[], ["y.json"]⟩, ⟨["a.json"], ["x.json"]⟩] := by decide +kernel

end Schema

end SchemaPipeline
