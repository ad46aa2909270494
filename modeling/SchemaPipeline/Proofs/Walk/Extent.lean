import Mathlib.Data.Finite.Prod
import Mathlib.Data.Set.Finite.Lattice
import SchemaPipeline.Engine.Judge
import SchemaPipeline.Proofs.Reference.Ownership
import SchemaPipeline.Proofs.Registry.Coverage
import SchemaPipeline.Proofs.Schema.Tree
import SchemaPipeline.Proofs.Walk.Ending

/-!
# What a walk can meet

A walk may go on for ever, but not over ever new schemas. Every schema it meets
stands in the schema it has begun with, in the document of its context or in one
of the table, or it is named by an anchor there (`Held`). Every context it is in
is the first one or that of an entry of the table (`Kin`). Both are finitely
many, so a walk that goes on for ever comes back to where it has been: what
follows on a finite set ends unless it runs in a circle (`acc_of_acyclic`).

The last section is about one schema that leads back to itself, and what any
walk over it comes to.
-/

namespace SchemaPipeline

open Relation

/-! ## Chains on a finite set -/

theorem transGen_of_chain {α : Type} {r : α → α → Prop} {chain : Nat → α}
    (h : ∀ i, r (chain i) (chain (i + 1))) {i j : Nat} (hij : i < j) :
    TransGen r (chain i) (chain j) := by
  induction j with
  | zero => omega
  | succ j ih =>
      rcases Nat.lt_succ_iff_lt_or_eq.1 hij with hlt | rfl
      · exact (ih hlt).tail (h j)
      · exact .single (h i)

/-- On a finite set that is not left, all chains end unless one comes back. -/
theorem acc_of_acyclic {α : Type} {r : α → α → Prop} {T : Set α} {a : α}
    (hfinite : T.Finite) (ha : a ∈ T) (hclosed : ∀ x ∈ T, ∀ y, r x y → y ∈ T)
    (hacyclic : ∀ b, ReflTransGen r a b → ¬ TransGen r b b) :
    Acc (fun y x => r x y) a := by
  by_contra hacc
  obtain ⟨chain, hstart, hstep⟩ := not_acc_iff_exists_descending_chain.1 hacc
  have hreach : ∀ i, ReflTransGen r a (chain i) := by
    intro i
    induction i with
    | zero => rw [hstart]
    | succ i ih => exact ih.tail (hstep i)
  have hmem : ∀ i, chain i ∈ T := by
    intro i
    induction i with
    | zero => rwa [hstart]
    | succ i ih => exact hclosed _ ih _ (hstep i)
  have hrepeats : ¬ Function.Injective chain := fun hinjective =>
    Set.infinite_of_injective_forall_mem hinjective hmem hfinite
  obtain ⟨i, j, heq, hne⟩ : ∃ i j, chain i = chain j ∧ i ≠ j := by
    simpa only [Function.Injective, not_forall, exists_prop] using hrepeats
  rcases Nat.lt_or_gt_of_ne hne with hlt | hlt
  · have hcycle := transGen_of_chain hstep hlt
    exact hacyclic _ (hreach i) (heq ▸ hcycle)
  · have hcycle := transGen_of_chain hstep hlt
    exact hacyclic _ (hreach j) (heq ▸ hcycle)

/-! ## Inside a value -/

namespace Value

/-- The value itself, its children, theirs, and so on. -/
def Holds (v x : Value) : Prop := ReflTransGen (fun a b => b ∈ a.children) v x

theorem finite_holds (v : Value) : {x | v.Holds x}.Finite := by
  induction hsize : v.size using Nat.strongRecOn generalizing v with
  | ind size ih =>
      have hbelow : (⋃ w ∈ v.children, {x | w.Holds x}).Finite :=
        Set.Finite.biUnion (List.finite_toSet v.children) fun w hw =>
          ih w.size (hsize ▸ Walk.size_child hw) w rfl
      refine (hbelow.insert v).subset fun x hx => ?_
      rcases ReflTransGen.cases_head hx with rfl | ⟨w, hw, hx⟩
      · exact Set.mem_insert _ _
      · exact Set.mem_insert_of_mem _ (Set.mem_biUnion hw hx)

/-- What is held, but for the value itself. -/
def Encloses (v x : Value) : Prop := TransGen (fun a b => b ∈ a.children) v x

theorem Encloses.holds {v x : Value} (h : v.Encloses x) : v.Holds x :=
  TransGen.to_reflTransGen h

theorem Encloses.size_lt {v x : Value} (h : v.Encloses x) : x.size < v.size := by
  induction h with
  | single hchild => exact Walk.size_child hchild
  | tail _ hchild ih => exact (Walk.size_child hchild).trans ih

theorem encloses_get? {v x : Value} {key : String} (h : v.get? key = some x) :
    v.Encloses x := by
  cases v with
  | object ms =>
      have hmem : x ∈ (Value.object ms).children :=
        List.mem_map_of_mem (f := Prod.snd) (Members.mem_of_find? h)
      exact .single hmem
  | _ => cases h

theorem encloses_of_provides {v x : Value} (h : Walk.Provides v x) :
    v.Encloses x := by
  cases h with
  | property hget hx => exact (encloses_get? hget).trans (encloses_get? hx)
  | element _ hget hx => exact (encloses_get? hget).tail (List.mem_of_getElem? hx)
  | others _ hget _ => exact encloses_get? hget

theorem holds_descend {tokens : List String} {v x : Value}
    (h : Pointer.descend tokens v = some x) : v.Holds x := by
  induction tokens generalizing v with
  | nil =>
      cases h
      exact .refl
  | cons token rest ih =>
      obtain ⟨w, hw, hx⟩ := Option.bind_eq_some_iff.1 h
      refine .head ?_ (ih hx)
      cases v with
      | object ms => exact List.mem_map_of_mem (f := Prod.snd) (Members.mem_of_find? hw)
      | array xs =>
          obtain ⟨i, -, hi⟩ := Option.bind_eq_some_iff.1 hw
          exact List.mem_of_getElem? hi
      | _ => cases hw

end Value

/-! ## Schemas of children -/

namespace Walk

theorem schema_of_mem_sites {κ : Type} {pointer : Pointer} {found : Option Value}
    {context : Option κ} {u : Value} {t : Site κ}
    (ht : t ∈ sites pointer found context u) :
    t.context = context ∧
      ∀ x, t.schema = some x → ∃ s, found = some s ∧ Provides s x := by
  cases u with
  | object ms =>
      rw [sites_object] at ht
      obtain ⟨m, -, rfl⟩ := List.mem_map.1 ht
      refine ⟨rfl, fun x hx => ?_⟩
      obtain ⟨s, hs, hproperty⟩ := Option.bind_eq_some_iff.1 hx
      exact ⟨s, hs, provides_of_propertySchema hproperty⟩
  | array xs =>
      rw [sites_array] at ht
      obtain ⟨m, -, rfl⟩ := List.mem_map.1 ht
      refine ⟨rfl, fun x hx => ?_⟩
      obtain ⟨s, hs, hitem⟩ := Option.bind_eq_some_iff.1 hx
      exact ⟨s, hs, provides_of_itemSchema hitem⟩
  | _ => cases ht

/-- The schema of a child is one that the effective schema of its parent has for
it, and the context is that of this effective schema. -/
theorem Child.schema {κ : Type} [SchemaContext κ] {visitor : Visitor}
    {s t : Site κ} (h : Child visitor s t) :
    ∃ found, nodeSchema s.schema s.context = .ok (found, t.context) ∧
      ∀ x, t.schema = some x → ∃ y, found = some y ∧ Provides y x := by
  obtain ⟨call, u, below, hopens, ht⟩ := h
  cases hopens with
  | @intro found context _ hschema _ =>
      obtain ⟨hcontext, hprovides⟩ := schema_of_mem_sites ht
      exact ⟨found, by rw [hcontext, hschema], hprovides⟩

end Walk

/-! ## Contexts -/

namespace DocumentContext

open Walk

variable {J : Judge} {c d : DocumentContext J}

/-- The context of an entry of the table. -/
def ofEntry (c : DocumentContext J) (e : String × Value) : DocumentContext J :=
  { settings := c.settings, known := c.known, schema := e.2, base := Url.parse? e.1,
    verdict := Thunk.mk fun _ => J.compile c.settings.terms c.known e.2 }

/-- The context itself, or that of an entry of its table. -/
def Kin (c d : DocumentContext J) : Prop :=
  d = c ∨ ∃ e ∈ c.known.entries, d = c.ofEntry e

theorem finite_kin (c : DocumentContext J) : {d | Kin c d}.Finite := by
  refine ((List.finite_toSet (c.known.entries.map c.ofEntry)).insert c).subset ?_
  rintro d (rfl | ⟨e, he, rfl⟩)
  · exact Set.mem_insert _ _
  · exact Set.mem_insert_of_mem _ (List.mem_map_of_mem he)

theorem Kin.document? (h : Kin c d) {reference : String}
    {d' : DocumentContext J} (hd : d.document? reference = some d') :
    Kin c d' := by
  have hsame : d.settings = c.settings ∧ d.known = c.known := by
    rcases h with rfl | ⟨e, -, rfl⟩
    · exact ⟨rfl, rfl⟩
    · exact ⟨rfl, rfl⟩
  obtain ⟨schema, hfind, rfl⟩ := Option.map_eq_some_iff.1 hd
  rw [hsame.2] at hfind
  refine .inr ⟨(_, schema), Members.mem_of_find? hfind, ?_⟩
  rw [hsame.1, hsame.2]
  rfl

/-- Where the schemas stand that a walk can meet: in the schema it begins with,
in the documents at hand, and in what anchors name there. -/
def grounds (c : DocumentContext J) (schema : Option Value) : List Value :=
  schema.toList ++
    (c.schema :: c.known.entries.map Prod.snd).flatMap Value.schemas

def Held (c : DocumentContext J) (schema : Option Value) (x : Value) : Prop :=
  ∃ ground ∈ c.grounds schema, ground.Holds x

theorem Held.holds {schema : Option Value} {x y : Value}
    (h : c.Held schema x) (hy : x.Holds y) : c.Held schema y := by
  obtain ⟨ground, hground, hx⟩ := h
  exact ⟨ground, hground, hx.trans hy⟩

theorem finite_held (c : DocumentContext J) (schema : Option Value) :
    {x | c.Held schema x}.Finite := by
  refine (Set.Finite.biUnion (List.finite_toSet (c.grounds schema))
    fun ground _ => ground.finite_holds).subset ?_
  rintro x ⟨ground, hground, hx⟩
  exact Set.mem_biUnion hground hx

theorem Kin.held_schemas (h : Kin c d) (schema : Option Value) {x : Value}
    (hx : x ∈ d.schema.schemas) : c.Held schema x := by
  refine ⟨x, List.mem_append_right _ (List.mem_flatMap.2 ⟨d.schema, ?_, hx⟩), .refl⟩
  rcases h with rfl | ⟨e, he, rfl⟩
  · exact List.mem_cons_self
  · exact List.mem_cons_of_mem _ (List.mem_map_of_mem he)

theorem Kin.held_fragment (h : Kin c d) (schema : Option Value)
    {fragment : String} {x : Value} (hx : d.fragment? fragment = some x) :
    c.Held schema x := by
  have hself := h.held_schemas schema (Value.mem_schemas_self d.schema)
  unfold DocumentContext.fragment? at hx
  split at hx
  · cases hx
    exact hself
  · split at hx
    · obtain ⟨pointer, -, hresolve⟩ := Option.bind_eq_some_iff.1 hx
      exact hself.holds (Value.holds_descend hresolve)
    · exact h.held_schemas schema (List.mem_of_find?_eq_some hx)

/-! ## What a walk can meet -/

/-- A schema and a context that a walk can come to. -/
structure Local (c : DocumentContext J) (schema : Option Value)
    (n : Option Value × Option (DocumentContext J)) : Prop where
  held : ∀ x, n.1 = some x → c.Held schema x
  kin : ∃ d, n.2 = some d ∧ Kin c d

theorem finite_local (c : DocumentContext J) (schema : Option Value) :
    {n | Local c schema n}.Finite := by
  refine Set.Finite.subset
    ((((c.finite_held schema).image some).insert none).prod
      ((finite_kin c).image some)) ?_
  rintro ⟨found, context⟩ ⟨hheld, d, rfl, hd⟩
  refine ⟨?_, Set.mem_image_of_mem some hd⟩
  cases found with
  | none => exact Set.mem_insert _ _
  | some x => exact Set.mem_insert_of_mem _ (Set.mem_image_of_mem some (hheld x rfl))

theorem Local.start (c : DocumentContext J) (schema : Option Value) :
    Local c schema (schema, some c) where
  held x hx := by
    have hschema : schema = some x := hx
    refine ⟨x, List.mem_append_left _ ?_, .refl⟩
    rw [hschema]
    exact List.mem_cons_self
  kin := ⟨c, rfl, .inl rfl⟩

theorem Local.of_held {schema : Option Value} {x : Value} (hx : c.Held schema x)
    (hd : Kin c d) : Local c schema (some x, some d) where
  held y hy := by
    cases hy
    exact hx
  kin := ⟨d, rfl, hd⟩

theorem Kin.enterResource (h : Kin c d) (x : Value) :
    ∃ d', Walk.enterResource x (some d) = some d' ∧ Kin c d' := by
  rw [enterResource_some x d 0, Place.inner]
  split
  · next id _ =>
      cases hd : SchemaContext.document d id with
      | none => exact ⟨d, rfl, h⟩
      | some d' => exact ⟨d', rfl, h.document? hd⟩
  · exact ⟨d, rfl, h⟩

theorem Kin.select (h : Kin c d) {document : String} {d' : DocumentContext J}
    (hselect : Reference.select d document = some d') : Kin c d' := by
  rw [Reference.select] at hselect
  split at hselect
  · cases hselect
    exact h
  · exact h.document? hselect

theorem local_of_follow {schema : Option Value} {hops : Nat} {x : Value}
    {n : Value × Option (DocumentContext J)} (hx : c.Held schema x)
    (hd : Kin c d) (h : follow hops x (some d) = .ok n) :
    Local c schema (some n.1, n.2) := by
  induction hops generalizing x d with
  | zero =>
      obtain ⟨d', henter, hd'⟩ := hd.enterResource x
      rw [follow] at h
      simp only [henter] at h
      split at h
      · cases h
        exact .of_held hx hd'
      · cases h
  | succ hops ih =>
      obtain ⟨d', henter, hd'⟩ := hd.enterResource x
      rw [follow] at h
      simp only [henter] at h
      split at h
      · cases h
        exact .of_held hx hd'
      · split at h
        · cases h
        · cases h
          exact .of_held hx hd'
        · next target hresolve =>
            obtain ⟨hselect, hfragment⟩ := select_of_resolve hresolve
            have htarget := hd'.select hselect
            exact ih (htarget.held_fragment schema hfragment) htarget h

section

variable {schema : Option Value} {n : Option Value × Option (DocumentContext J)}

theorem Local.effective {x : Value} {m : Value × Option (DocumentContext J)}
    (h : Local c schema n) (hx : n.1 = some x)
    (heffective : Walk.effective x n.2 = .ok m) :
    Local c schema (some m.1, m.2) := by
  obtain ⟨d, hcontext, hd⟩ := h.kin
  rw [hcontext] at heffective
  exact local_of_follow (h.held x hx) hd heffective

theorem Local.nodeSchema {m : Option Value × Option (DocumentContext J)}
    (h : Local c schema n) (hnode : Walk.nodeSchema n.1 n.2 = .ok m) :
    Local c schema m := by
  rw [Walk.nodeSchema.eq_def] at hnode
  split at hnode
  · next hnone =>
      cases hnode
      exact ⟨nofun, h.kin⟩
  · next x hx =>
      cases heffective : Walk.effective x n.2 with
      | error reference =>
          rw [heffective] at hnode
          cases hnode
      | ok found =>
          rw [heffective] at hnode
          cases hnode
          exact h.effective hx heffective

/-- What a walk goes on with is as near as what it comes from. -/
theorem Local.child {visitor : Visitor} {s t : Walk.Site (DocumentContext J)}
    (h : Local c schema (s.schema, s.context)) (hchild : Child visitor s t) :
    Local c schema (t.schema, t.context) := by
  obtain ⟨found, hnode, hprovides⟩ := hchild.schema
  have hfound := h.nodeSchema hnode
  refine ⟨fun x hx => ?_, hfound.kin⟩
  obtain ⟨y, hy, hx⟩ := hprovides x hx
  exact (hfound.held y hy).holds (Value.encloses_of_provides hx).holds

theorem Local.branch {visitor : Visitor} {s t : Walk.Site (DocumentContext J)}
    (h : Local c schema (s.schema, s.context))
    (hbranch : ReflTransGen (Child visitor) s t) :
    Local c schema (t.schema, t.context) := by
  induction hbranch with
  | refl => exact h
  | tail _ hchild ih => exact ih.child hchild

end

end DocumentContext

/-! ## A chain of nodes -/

namespace Walk

/-- The schema of a label, which has a default. -/
def label : Value := .object [("default", .string "x")]

/-- Nodes with labels, the last one with `null` for the next. -/
def chain : Value :=
  .object [("type", .array [.string "object", .string "null"]),
    ("properties",
      .object [("next", .object [("$ref", .string "#")]), ("label", label)])]

def chainContext : DocumentContext Validator.lenient :=
  Validator.lenientContext chain

/-- What a walk over a chain comes to. -/
def OnChain (s : Site (DocumentContext Validator.lenient)) : Prop :=
  s.context = some chainContext ∧
    (s.schema = none ∨ s.schema = some chain ∨ s.schema = some label ∨
      s.schema = some (.object [("$ref", .string "#")]))

variable {s t : Site (DocumentContext Validator.lenient)}

theorem OnChain.nodeSchema (h : OnChain s) {found : Option Value}
    {context : Option (DocumentContext Validator.lenient)}
    (hnode : Walk.nodeSchema s.schema s.context = .ok (found, context)) :
    context = some chainContext ∧
      (found = none ∨ found = some chain ∨ found = some label) := by
  have hchain : Walk.nodeSchema (some chain) (some chainContext) =
      .ok (some chain, some chainContext) := rfl
  have hlabel : Walk.nodeSchema (some label) (some chainContext) =
      .ok (some label, some chainContext) := rfl
  have hreference : Walk.nodeSchema (some (.object [("$ref", .string "#")]))
      (some chainContext) = .ok (some chain, some chainContext) := rfl
  obtain ⟨hcontext, hschema | hschema | hschema | hschema⟩ := h
  · rw [hcontext, hschema] at hnode
    cases hnode
    exact ⟨rfl, .inl rfl⟩
  · rw [hcontext, hschema, hchain] at hnode
    cases hnode
    exact ⟨rfl, .inr (.inl rfl)⟩
  · rw [hcontext, hschema, hlabel] at hnode
    cases hnode
    exact ⟨rfl, .inr (.inr rfl)⟩
  · rw [hcontext, hschema, hreference] at hnode
    cases hnode
    exact ⟨rfl, .inr (.inl rfl)⟩

theorem not_provides_label {x : Value} : ¬ Provides label x := by
  rintro (⟨hget, -⟩ | ⟨hkeyword, hget, -⟩ | ⟨hkeyword, hget, -⟩)
  · cases hget
  · rcases hkeyword with rfl | rfl <;> cases hget
  · rcases hkeyword with rfl | rfl | rfl <;> cases hget

theorem eq_of_provides_chain {x : Value} (h : Provides chain x) :
    x = label ∨ x = .object [("$ref", .string "#")] := by
  cases h with
  | @property _ key hget hx =>
      cases hget
      have heq : Value.get? (.object [("next", .object [("$ref", .string "#")]),
          ("label", label)]) key =
            if "next" == key then some (.object [("$ref", .string "#")])
            else if "label" == key then some label else none := rfl
      rw [heq] at hx
      split at hx
      · cases hx
        exact .inr rfl
      · split at hx
        · cases hx
          exact .inl rfl
        · cases hx
  | element hkeyword hget _ =>
      rcases hkeyword with rfl | rfl <;> cases hget
  | others hkeyword hget _ =>
      rcases hkeyword with rfl | rfl | rfl <;> cases hget

theorem onChain_of_provides {y x : Value} (hy : y = chain ∨ y = label)
    (h : Provides y x) (hcontext : t.context = some chainContext)
    (hschema : t.schema = some x) : OnChain t := by
  refine ⟨hcontext, ?_⟩
  rw [hschema]
  rcases hy with rfl | rfl
  · rcases eq_of_provides_chain h with rfl | rfl
    · exact .inr (.inr (.inl rfl))
    · exact .inr (.inr (.inr rfl))
  · exact absurd h not_provides_label

theorem OnChain.child {visitor : Visitor} (h : OnChain s)
    (hchild : Child visitor s t) : OnChain t := by
  obtain ⟨found, hnode, hprovides⟩ := hchild.schema
  obtain ⟨hcontext, hfound⟩ := h.nodeSchema hnode
  cases hschema : t.schema with
  | none => exact ⟨hcontext, .inl hschema⟩
  | some x =>
      obtain ⟨y, rfl, hx⟩ := hprovides x hschema
      have hy : y = chain ∨ y = label := by simpa using hfound
      exact onChain_of_provides hy hx hcontext hschema

theorem onChain_of_branch {visitor : Visitor} {v : Value}
    (h : ReflTransGen (Child visitor) ⟨v, .root, some chain, some chainContext⟩ s) :
    OnChain s := by
  induction h with
  | refl => exact ⟨rfl, .inr (.inl rfl)⟩
  | tail _ hchild ih => exact ih.child hchild

end Walk

end SchemaPipeline
