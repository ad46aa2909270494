import SchemaPipeline.Proofs.Transform.Filled
import SchemaPipeline.Proofs.Walk.Extent

/-!
# When filling ends

Filling goes on to what it has put in. A `null` under a schema that asks for an
object becomes an object of `null`s, and each of these may be expanded again, so
the value is no bound for the walk. Two things together are. A child that was
there before is smaller than its parent. A child that is new is a `null` under a
declared property, and it is expanded only if the effective schema of this
property is `Demanding`: then the step there from the schema of the parent is one
of those that are `Forced`.

So a walk goes on for ever only along forced steps: it ends if no infinite chain
of them starts at a schema that it meets (`ends_of_met`). The induction is on the
value first, and on the chain once a `null` has been put in.
-/

namespace SchemaPipeline

namespace Transform

/-- Under such a schema an absent value is expanded to an object. -/
def Demanding (schema : Value) : Prop :=
  ∃ ms, schema = .object ms ∧ isObjectLike ms = true ∧
    isArrayLike ms = false ∧ admitsNull ms = false

/-- The property is declared under its name. -/
def Declares (schema : Value) (name : String) (property : Value) : Prop :=
  ∃ ps, schema.get? "properties" = some (.object ps) ∧
    Members.find? ps name = some property

theorem exists_declares {ms : Members} {name : String}
    (h : name ∈ declaredProperties ms) :
    ∃ property, Declares (.object ms) name property := by
  rw [declaredProperties] at h
  split at h
  · next ps hps =>
      cases hfind : Members.find? ps name with
      | some property => exact ⟨property, ps, hps, hfind⟩
      | none =>
          have hcontains := contains_iff.2 h
          rw [Members.contains, hfind] at hcontains
          cases hcontains
  · cases h

theorem Declares.propertySchema {schema property : Value} {name : String}
    (h : Declares schema name property) :
    Walk.propertySchema schema name = some property := by
  obtain ⟨ps, hps, hfind⟩ := h
  rw [Walk.propertySchema, hps, Option.bind_some, Value.get?, hfind,
    Option.some_or]

/-- A member of what a node is filled to was there before, or it is a `null` for
a declared property; a `null` has members then only if it had to be expanded. -/
theorem member_of_fill {schema ms : Members} {v : Value} {m : String × Value}
    (h : fill schema v = .object ms) (hm : m ∈ ms) :
    m.2 ∈ v.children ∨
      m.2 = .null ∧ m.1 ∈ declaredProperties schema ∧
        (v = .null → Demanding (.object schema)) := by
  have hfills := fill_fills schema v
  rw [h] at hfills
  generalize hmade : Value.object ms = u at hfills
  cases hfills with
  | kept =>
      rw [← hmade]
      exact .inl (List.mem_map_of_mem hm)
  | toArray => cases hmade
  | toObject hadmits harray hobject =>
      cases hmade
      obtain ⟨added, heq, hmissing⟩ :=
        exists_missing [] (declaredProperties schema)
      rw [heq, List.nil_append] at hm
      obtain ⟨name, hname, rfl⟩ := List.mem_map.1 hm
      exact .inr ⟨rfl, hmissing.sublist.subset hname, fun _ =>
        ⟨schema, rfl, hobject, harray, hadmits⟩⟩
  | @added old =>
      cases hmade
      obtain ⟨added, heq, hmissing⟩ :=
        exists_missing old (declaredProperties schema)
      rw [heq] at hm
      rcases List.mem_append.1 hm with hm | hm
      · exact .inl (List.mem_map_of_mem hm)
      · obtain ⟨name, hname, rfl⟩ := List.mem_map.1 hm
        exact .inr ⟨rfl, hmissing.sublist.subset hname, nofun⟩

/-- An element of what a node is filled to was there before. -/
theorem element_of_fill {schema : Members} {v x : Value} {xs : List Value}
    (h : fill schema v = .array xs) (hx : x ∈ xs) : x ∈ v.children := by
  have hfills := fill_fills schema v
  rw [h] at hfills
  generalize hmade : Value.array xs = u at hfills
  cases hfills with
  | kept =>
      rw [← hmade]
      exact hx
  | toArray =>
      cases hmade
      cases hx
  | toObject | added => cases hmade

end Transform

namespace Walk

open Relation Transform

variable {κ : Type} [SchemaContext κ]

/-! ## Forced steps -/

/-- An effective schema with its context. -/
abbrev Described (κ : Type) := Value × Option κ

/-- From an effective schema to the effective schema of a declared property. -/
def PropertyStep (n m : Described κ) : Prop :=
  ∃ name property, Declares n.1 name property ∧ effective property n.2 = .ok m

/-- The property has to be an object, and `null` is none. -/
def Forced (n m : Described κ) : Prop := PropertyStep n m ∧ Demanding m.1

/-- An infinite chain of forced steps starts here. -/
def Endless (n : Described κ) : Prop :=
  ∃ chain : Nat → Described κ, chain 0 = n ∧
    ∀ i, Forced (chain i) (chain (i + 1))

/-- The site has this effective schema and context. -/
def DescribedBy (s : Site κ) (n : Described κ) : Prop :=
  nodeSchema s.schema s.context = .ok (some n.1, n.2)

/-- The walk comes to a site with this effective schema and context. -/
def Meets (visitor : Visitor) (s : Site κ) (n : Described κ) : Prop :=
  ∃ r, ComesTo visitor s r ∧ DescribedBy r n

theorem effective_of_describedBy {s : Site κ} {schema : Value} {n : Described κ}
    (hschema : s.schema = some schema) (h : DescribedBy s n) :
    effective schema s.context = .ok n := by
  obtain ⟨found, context⟩ := n
  rw [DescribedBy, hschema, nodeSchema] at h
  cases heffective : effective schema s.context with
  | error reference =>
      rw [heffective] at h
      cases h
  | ok n =>
      rw [heffective] at h
      cases h
      rfl

theorem DescribedBy.unique {s : Site κ} {n m : Described κ}
    (h : DescribedBy s n) (h' : DescribedBy s m) : m = n := by
  have heq := h.symm.trans h'
  rw [Except.ok.injEq, Prod.mk.injEq, Option.some.injEq] at heq
  exact (Prod.ext heq.1 heq.2).symm

theorem acc_forced_iff {n : Described κ} :
    Acc (fun m n => Forced n m) n ↔ ¬ Endless n := by
  have hendless : ¬ Acc (fun m n => Forced n m) n ↔ Endless n :=
    not_acc_iff_exists_descending_chain
  rw [← hendless, not_not]

/-! ## Walks that fill -/

section

variable {s t : Site κ}

/-- A child is one of those that were there before, or it is a new `null` for a
property that the effective schema declares. -/
theorem child_of_filling {call : Call} {u : Value} {below : List (Site κ)}
    (hopens : Opens filling s call u below) (ht : t ∈ below) :
    t.value ∈ s.value.children ∨
      t.value = .null ∧ ∃ n name property, DescribedBy s n ∧
        Declares n.1 name property ∧ t.schema = some property ∧
        t.context = n.2 ∧ (s.value = .null → Demanding n.1) := by
  have hchild := hopens.child ht
  cases hopens with
  | @intro schema context _ hschema hvisit =>
      cases hvisit
      cases schema with
      | none => exact .inl hchild
      | some schema =>
          cases schema with
          | object ms =>
              cases hfill : fill ms s.value with
              | object us =>
                  have hu : fillUndefined s.value (some (.object ms)) =
                      .object us := hfill
                  rw [hu, sites_object] at ht
                  obtain ⟨m, hm, rfl⟩ := List.mem_map.1 ht
                  refine (member_of_fill hfill hm).imp_right ?_
                  rintro ⟨hnull, hname, hdemanding⟩
                  obtain ⟨property, hproperty⟩ := exists_declares hname
                  exact ⟨hnull, (.object ms, context), m.1, property, hschema,
                    hproperty, hproperty.propertySchema, rfl, hdemanding⟩
              | array xs =>
                  have hu : fillUndefined s.value (some (.object ms)) =
                      .array xs := hfill
                  rw [hu] at hchild
                  exact .inl (element_of_fill hfill hchild)
              | _ =>
                  have hu : fillUndefined s.value (some (.object ms)) = _ := hfill
                  rw [hu] at hchild
                  cases hchild
          | _ => exact .inl hchild

/-- A `null` that does not have to be expanded has nothing below it. -/
theorem ends_of_null (hnull : s.value = .null)
    (h : ∀ n, DescribedBy s n → Demanding n.1 → Ends filling s) :
    Ends filling s := by
  by_cases hexpand : ∃ n, DescribedBy s n ∧ Demanding n.1
  · obtain ⟨n, hn, hdemanding⟩ := hexpand
    exact h n hn hdemanding
  · refine ends_of_below fun call u before t after hopens _ => ?_
    exfalso
    rcases child_of_filling hopens
      (List.mem_append_right before List.mem_cons_self) with
      hold | ⟨-, n, _, _, hn, -, -, -, hdemanding⟩
    · rw [hnull] at hold
      cases hold
    · exact hexpand ⟨n, hn, hdemanding hnull⟩

/-- A new `null` is walked to an end if one is that has to be expanded. -/
theorem ends_of_property {n : Described κ} {name : String} {property : Value}
    (hproperty : Declares n.1 name property) (hschema : t.schema = some property)
    (hcontext : t.context = n.2) (hnull : t.value = .null)
    (h : ∀ m, Forced n m → DescribedBy t m → Ends filling t) :
    Ends filling t := by
  refine ends_of_null hnull fun m hm hdemanding => ?_
  have heffective := effective_of_describedBy hschema hm
  rw [hcontext] at heffective
  exact h m ⟨⟨name, property, hproperty, heffective⟩, hdemanding⟩ hm

/-- Expanding a `null` ends if all chains of forced steps do. -/
theorem ends_of_acc_forced {n : Described κ}
    (hacc : Acc (fun m n => Forced n m) n) (hnull : s.value = .null)
    (hn : DescribedBy s n) : Ends filling s := by
  induction hacc generalizing s with
  | intro n _ ih =>
      refine ends_of_below fun call u before t after hopens _ => ?_
      rcases child_of_filling hopens
        (List.mem_append_right before List.mem_cons_self) with
        hold | ⟨htnull, n', _, _, hn', hproperty, hschema, hcontext, -⟩
      · rw [hnull] at hold
        cases hold
      · cases hn.unique hn'
        exact ends_of_property hproperty hschema hcontext htnull
          fun m hforced hm => ih m hforced htnull hm

/-- Filling ends if no infinite chain of forced steps starts where it comes. -/
theorem ends_of_met (h : ∀ n, Meets filling s n → ¬ Endless n) :
    Ends filling s := by
  induction hsize : s.value.size using Nat.strongRecOn generalizing s with
  | ind size ih =>
      refine ends_of_below fun call u before t after hopens hbefore => ?_
      rcases child_of_filling hopens
        (List.mem_append_right before List.mem_cons_self) with
        hold | ⟨htnull, n, _, _, hn, hproperty, hschema, hcontext, -⟩
      · -- it was there before, so it is smaller
        refine ih _ (hsize ▸ size_child hold) (fun n hn => ?_) rfl
        obtain ⟨r, hcomes, hr⟩ := hn
        exact h n ⟨r, hcomes.child hopens hbefore, hr⟩
      · -- it is a new `null`, and from here on only forced steps go further
        have hacc := acc_forced_iff.2 (h n ⟨s, .refl filling s, hn⟩)
        exact ends_of_property hproperty hschema hcontext htnull
          fun m hforced hm => ends_of_acc_forced (hacc.inv hforced) htnull hm

end

/-! ## Schemas of documents -/

section

variable {J : Judge} {c : DocumentContext J} {schema : Option Value}
  {n m : Described (DocumentContext J)}

theorem local_of_propertyStep (h : c.Local schema (some n.1, n.2))
    (hstep : PropertyStep n m) : c.Local schema (some m.1, m.2) := by
  obtain ⟨name, property, hdeclares, heffective⟩ := hstep
  have hinside : n.1.Encloses property := Value.encloses_of_provides
    (provides_of_propertySchema hdeclares.propertySchema)
  have hproperty : c.Local schema (some property, n.2) := by
    refine ⟨fun x hx => ?_, h.kin⟩
    cases hx
    exact (h.held n.1 rfl).holds hinside.holds
  exact hproperty.effective rfl heffective

/-- Among finitely many schemas only a circle of forced steps goes on for
ever. -/
theorem acc_forced_of_acyclic (h : c.Local schema (some n.1, n.2))
    (hacyclic : ∀ m, ReflTransGen Forced n m → ¬ TransGen Forced m m) :
    Acc (fun m n => Forced n m) n := by
  have hinjective : Function.Injective
      fun n : Described (DocumentContext J) => (some n.1, n.2) := by
    rintro ⟨x, d⟩ ⟨y, e⟩ heq
    cases heq
    rfl
  exact acc_of_acyclic
    ((c.finite_local schema).preimage hinjective.injOn) h
    (fun k hk m hforced => local_of_propertyStep hk hforced.1) hacyclic

theorem local_of_meets {visitor : Visitor} {s : Site (DocumentContext J)}
    (h : c.Local schema (s.schema, s.context)) (hn : Meets visitor s n) :
    c.Local schema (some n.1, n.2) := by
  obtain ⟨r, hcomes, hr⟩ := hn
  exact (h.branch hcomes.branch).nodeSchema hr

end

/-- Filling ends, whatever the value, if no infinite chain of forced steps starts
at an effective schema that the walk meets. Where the references lead through
documents it is enough that no circle of forced steps can be entered from there:
each circle of properties has one that admits `null` or is array-like. -/
theorem filling_finishes_of_unforced :
    (∀ (κ : Type) [SchemaContext κ] (v : Value) (schema : Option Value)
      (context : Option κ),
      (∀ n, Meets filling ⟨v, .root, schema, context⟩ n → ¬ Endless n) →
      Finishes filling v schema context) ∧
    ∀ (J : Judge) (c : DocumentContext J) (v : Value) (schema : Option Value),
      (∀ n, Meets filling ⟨v, .root, schema, some c⟩ n →
        ∀ m, ReflTransGen Forced n m → ¬ TransGen Forced m m) →
      Finishes filling v schema (some c) := by
  constructor
  · exact fun κ _ v schema context h => finishes_iff.2 (ends_of_met h)
  · refine fun J c v schema h => finishes_iff.2 (ends_of_met fun n hn => ?_)
    have hlocal := local_of_meets (DocumentContext.Local.start c schema) hn
    exact acc_forced_iff.1 (acc_forced_of_acyclic hlocal (h n hn))

/-! ## Filling a chain -/

theorem described_of_onChain {s : Site (DocumentContext Validator.lenient)}
    {n : Described (DocumentContext Validator.lenient)} (h : OnChain s)
    (hn : DescribedBy s n) :
    (n.1 = chain ∨ n.1 = label) ∧ n.2 = some chainContext := by
  obtain ⟨hcontext, hfound⟩ := h.nodeSchema hn
  exact ⟨by simpa using hfound, hcontext⟩

theorem not_demanding_chain {x : Value} (h : x = chain ∨ x = label) :
    ¬ Demanding x := by
  rintro ⟨ms, rfl, hobject, -, hnull⟩
  rcases h with h | h
  · cases h
    revert hnull
    decide
  · cases h
    revert hobject
    decide

/-- The next node may be `null`, so nothing has to be expanded. -/
theorem not_forced_of_met {v : Value}
    {n m : Described (DocumentContext Validator.lenient)}
    (h : Meets filling ⟨v, .root, some chain, some chainContext⟩ n) :
    ¬ Forced n m := by
  obtain ⟨r, hcomes, hr⟩ := h
  obtain ⟨hn, hcontext⟩ :=
    described_of_onChain (onChain_of_branch hcomes.branch) hr
  rintro ⟨⟨name, property, hproperty, heffective⟩, hdemanding⟩
  let t : Site (DocumentContext Validator.lenient) :=
    ⟨.null, .root, some property, n.2⟩
  have hprovides := provides_of_propertySchema hproperty.propertySchema
  have ht : OnChain t := onChain_of_provides hn hprovides hcontext rfl
  have hm : DescribedBy t m := by
    rw [DescribedBy, nodeSchema, heffective]
    rfl
  exact not_demanding_chain (described_of_onChain ht hm).1 hdemanding

theorem filling_finishes_of_unforced_chain :
    (∀ n, Meets filling ⟨.object [("next", .object [])], .root, some chain,
        some chainContext⟩ n → ¬ Endless n) ∧
      (∀ n, Meets filling ⟨.object [("next", .object [])], .root, some chain,
        some chainContext⟩ n →
        ∀ m, ReflTransGen Forced n m → ¬ TransGen Forced m m) ∧
      Finishes filling (.object [("next", .object [])]) (some chain)
        (some chainContext) := by
  have hendless : ∀ n, Meets filling ⟨.object [("next", .object [])], .root,
      some chain, some chainContext⟩ n → ¬ Endless n := by
    rintro n hn ⟨sequence, hstart, hforced⟩
    have hfirst := hforced 0
    rw [hstart] at hfirst
    exact not_forced_of_met hn hfirst
  have hacyclic : ∀ n, Meets filling ⟨.object [("next", .object [])], .root,
      some chain, some chainContext⟩ n →
      ∀ m, ReflTransGen Forced n m → ¬ TransGen Forced m m := by
    intro n hn m hreach hcircle
    rcases ReflTransGen.cases_head hreach with rfl | ⟨k, hforced, -⟩
    · obtain ⟨k, hforced, -⟩ := TransGen.head'_iff.1 hcircle
      exact not_forced_of_met hn hforced
    · exact not_forced_of_met hn hforced
  exact ⟨hendless, hacyclic, filling_finishes_of_unforced.2 _ _ _ _ hacyclic⟩

end Walk

end SchemaPipeline
