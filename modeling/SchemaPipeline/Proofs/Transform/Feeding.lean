import SchemaPipeline.Proofs.Transform.Inserted
import SchemaPipeline.Proofs.Walk.Extent

/-!
# When inserting defaults ends

What has been put in is walked as well, and its schema may be a reference to one
that has defaults for it in turn. So the size of the value is no bound, and the
walk does not always end: a default can bring itself about again
(`exists_unending`).

This is the only way to go on for ever. A walk is decided by its `Seed`, which
is all of a site but its place. Along a branch either the value gets smaller or
a default is put in, and over documents only finitely many seeds can come up. So
an infinite branch comes back to a seed, with a default put in on the way, and
what follows from a seed once follows from it again (`bounded_iff`).
-/

namespace SchemaPipeline.Walk

open Relation Transform

variable {κ : Type} [SchemaContext κ]

/-! ## Steps down -/

/-- All that decides about a walk. -/
abbrev Seed (κ : Type) := Value × Option Value × Option κ

def Site.seed (s : Site κ) : Seed κ := (s.value, s.schema, s.context)

/-- The child is the default of a property that was not there. -/
structure Puts (s t : Site κ) : Prop where
  child : Child defaults s t
  put : ∃ ms token found, s.value = .object ms ∧ token ∉ Members.keys ms ∧
    t.pointer = s.pointer.push token ∧
    nodeSchema s.schema s.context = .ok (found, t.context) ∧
    HasDefault found token t.value

/-- A default is put in, and below it the walk comes to the same value under the
same schema in the same context. -/
def FeedsItself (s : Site κ) : Prop :=
  ∃ p t u, ReflTransGen (Child defaults) s p ∧ Puts p t ∧
    TransGen (Child defaults) t u ∧ u.seed = t.seed

variable {s s' t u : Site κ}

/-- A child was there before, or it is the default of a property. -/
theorem child_of_inserting (h : Child defaults s t) :
    t.value ∈ s.value.children ∨ Puts s t := by
  obtain ⟨found, hnode, -⟩ := h.schema
  obtain ⟨call, u, below, hopens, ht⟩ := id h
  cases hopens with
  | @intro found' context _ hschema hvisit =>
      cases hnode.symm.trans hschema
      cases hvisit
      obtain ⟨token, hentry, hpointer⟩ := entry_of_mem_sites ht
      generalize hu : insertDefaults s.value found = u at hentry
      have hanswer := insertDefaults_answer s.value found
      rw [hu] at hanswer
      generalize hv : s.value = v at hanswer
      cases hanswer with
      | @object ms added hsupply =>
          rcases List.mem_append.1 hentry with hold | hnew
          · exact .inl (Value.child_of_mem_entries (v := .object ms) hold)
          · exact .inr ⟨h, ms, token, found, hv, hsupply.fresh _ hnew, hpointer,
              hnode, hsupply.source _ hnew⟩
      | other => exact .inl (Value.child_of_mem_entries hentry)

/-- Where a site is has no part in what is below it. -/
theorem Child.of_seed (h : Child defaults s t) (hseed : s'.seed = s.seed) :
    ∃ t', Child defaults s' t' ∧ t'.seed = t.seed := by
  obtain ⟨hvalue, hschema, hcontext⟩ :
      s'.value = s.value ∧ s'.schema = s.schema ∧ s'.context = s.context := by
    simpa only [Site.seed, Prod.mk.injEq] using hseed
  obtain ⟨call, u, below, hopens, ht⟩ := h
  cases hopens with
  | @intro found context u hnode hvisit =>
      have hnode' : nodeSchema s'.schema s'.context = .ok (found, context) := by
        rw [hschema, hcontext, hnode]
      have hvisit' : defaults.visit s'.value s'.pointer found = .ok u := by
        rw [hvalue]
        exact hvisit
      obtain ⟨b, hb, rfl⟩ := List.mem_map.1 ht
      exact ⟨_, ⟨_, u, _, .intro hnode' hvisit', List.mem_map_of_mem hb⟩, rfl⟩

theorem transGen_of_seed (h : TransGen (Child defaults) s t)
    (hseed : s'.seed = s.seed) :
    ∃ t', TransGen (Child defaults) s' t' ∧ t'.seed = t.seed := by
  induction h with
  | single hchild =>
      obtain ⟨t', hchild', ht'⟩ := hchild.of_seed hseed
      exact ⟨t', .single hchild', ht'⟩
  | tail _ hchild ih =>
      obtain ⟨u, hu, huseed⟩ := ih
      obtain ⟨t', hchild', ht'⟩ := hchild.of_seed huseed
      exact ⟨t', hu.tail hchild', ht'⟩

/-! ## A default that feeds itself -/

/-- No seed comes up again on a finite branch. -/
theorem Bounded.seed_ne (h : Bounded defaults s)
    (hbelow : TransGen (Child defaults) s t) : t.seed ≠ s.seed := by
  have hacc := Acc.transGen h
  clear h
  induction hacc generalizing t with
  | intro s _ ih =>
      intro hseed
      obtain ⟨u, hu, huseed⟩ := transGen_of_seed hbelow hseed
      exact ih t (transGen_swap.2 hbelow) hu huseed

theorem Bounded.not_feedsItself (h : Bounded defaults s) : ¬ FeedsItself s := by
  rintro ⟨p, t, u, hbranch, hputs, hbelow, hseed⟩
  exact (h.of_branch (hbranch.tail hputs.child)).seed_ne hbelow hseed

/-- On the way down the value gets smaller, or a default is put in. -/
theorem size_lt_or_puts (h : TransGen (Child defaults) s u) :
    u.value.size < s.value.size ∨
      ∃ p t, ReflTransGen (Child defaults) s p ∧ Puts p t ∧
        ReflTransGen (Child defaults) t u := by
  induction h with
  | @single u hchild =>
      rcases child_of_inserting hchild with hold | hputs
      · exact .inl (size_child hold)
      · exact .inr ⟨s, u, .refl, hputs, .refl⟩
  | @tail b u hway hchild ih =>
      rcases ih with hsize | ⟨p, t, hp, hputs, ht⟩
      · rcases child_of_inserting hchild with hold | hputs
        · exact .inl ((size_child hold).trans hsize)
        · exact .inr ⟨b, u, hway.to_reflTransGen, hputs, .refl⟩
      · exact .inr ⟨p, t, hp, hputs, ht.tail hchild⟩

/-- What comes up again has put in a default that feeds itself. -/
theorem feedsItself_of_again (hreach : ReflTransGen (Child defaults) s t)
    (hbelow : TransGen (Child defaults) t u) (hseed : u.seed = t.seed) :
    FeedsItself s := by
  have hvalue : u.value = t.value := congrArg Prod.fst hseed
  rcases size_lt_or_puts hbelow with hsize | ⟨p, d, hp, hputs, hd⟩
  · rw [hvalue] at hsize
    exact absurd hsize (lt_irrefl _)
  · -- from `u` the same way leads to the same default once more
    have hway : TransGen (Child defaults) t d := .tail' hp hputs.child
    obtain ⟨d', hd', hdseed⟩ := transGen_of_seed hway hseed
    exact ⟨p, d, d', hreach.trans hp, hputs, .trans_right hd hd', hdseed⟩

/-! ## Without references -/

/-- The schema refers to nothing, or what it refers to is not looked up. -/
def Unreferring (schema : Option Value) (context : Option κ) : Prop :=
  context = none ∨
    ∀ s, schema = some s → ∀ x, s.Holds x → Schema.reference? x = none

theorem enterResource_none (x : Value) :
    enterResource x (none : Option κ) = none := by
  rw [enterResource]
  exact nofun

/-- The effective schema is the schema itself. -/
theorem nodeSchema_of_unreferring {schema : Option Value} {context : Option κ}
    (h : Unreferring schema context) :
    ∃ inner, nodeSchema schema context = .ok (schema, inner) ∧
      (context = none → inner = none) := by
  cases schema with
  | none => exact ⟨context, rfl, id⟩
  | some x =>
      have hfollow : effective x context =
          .ok (x, enterResource x context) := by
        rw [effective, maxHops, follow]
        rcases h with rfl | h
        · rw [enterResource_none]
          dsimp only
          split <;> rfl
        · rw [h x rfl x .refl]
      refine ⟨enterResource x context, by rw [nodeSchema, hfollow]; rfl, ?_⟩
      rintro rfl
      exact enterResource_none x

theorem Unreferring.child {visitor : Visitor}
    (h : Unreferring s.schema s.context) (hchild : Child visitor s t) :
    Unreferring t.schema t.context ∧
      ∀ x, t.schema = some x → ∃ y, s.schema = some y ∧ y.Encloses x := by
  obtain ⟨inner, hnode, hcontext⟩ := nodeSchema_of_unreferring h
  obtain ⟨found, hfound, hprovides⟩ := hchild.schema
  obtain ⟨rfl, rfl⟩ : s.schema = found ∧ inner = t.context := by
    simpa only [Except.ok.injEq, Prod.mk.injEq] using hnode.symm.trans hfound
  have hinside : ∀ x, t.schema = some x →
      ∃ y, s.schema = some y ∧ y.Encloses x := fun x hx =>
    (hprovides x hx).imp fun y hy => hy.imp_right Value.encloses_of_provides
  refine ⟨h.imp hcontext fun hnone x hx z hz => ?_, hinside⟩
  obtain ⟨y, hy, hencloses⟩ := hinside x hx
  exact hnone y hy z (hencloses.holds.trans hz)

/-- Where there is no schema, nothing is put in. -/
theorem bounded_of_no_schema (h : s.schema = none) : Bounded defaults s := by
  induction hsize : s.value.size using Nat.strongRecOn generalizing s with
  | ind size ih =>
      have hfound : ∀ {found : Option Value} {inner : Option κ},
          nodeSchema s.schema s.context = .ok (found, inner) → found = none := by
        intro found inner hnode
        rw [h] at hnode
        cases hnode
        rfl
      refine .intro s fun t hchild => ?_
      have ht : t.schema = none := by
        obtain ⟨found, hnode, hstep⟩ := hchild.schema
        refine Option.eq_none_iff_forall_ne_some.2 fun x hx => ?_
        obtain ⟨y, hy, -⟩ := hstep x hx
        cases (hfound hnode).symm.trans hy
      rcases child_of_inserting hchild with hold |
        ⟨-, _, _, found, -, -, -, hnode, x, _, _, hx, -⟩
      · exact ih _ (hsize ▸ size_child hold) ht rfl
      · cases (hfound hnode).symm.trans hx

/-- Without references the schema gets smaller, and where there is none any more
the value does. -/
theorem bounded_of_unreferring (h : Unreferring s.schema s.context) :
    Bounded defaults s := by
  cases hschema : s.schema with
  | none => exact bounded_of_no_schema hschema
  | some x =>
      induction hsize : x.size using Nat.strongRecOn generalizing s x with
      | ind size ih =>
          refine .intro s fun t hchild => ?_
          obtain ⟨ht, hinside⟩ := h.child hchild
          cases htschema : t.schema with
          | none => exact bounded_of_no_schema htschema
          | some z =>
              obtain ⟨y, hy, hencloses⟩ := hinside z htschema
              cases hschema.symm.trans hy
              exact ih z.size (hsize ▸ hencloses.size_lt) ht z htschema rfl

/-! ## Over documents -/

section

variable {J : Judge} {c : DocumentContext J} {v : Value} {schema : Option Value}

/-- A step from seed to seed. -/
def SeedStep (a b : Seed κ) : Prop :=
  ∃ s t : Site κ, s.seed = a ∧ t.seed = b ∧ Child defaults s t

theorem exists_branch {b : Seed κ} (h : ReflTransGen SeedStep s.seed b) :
    ∃ t, ReflTransGen (Child defaults) s t ∧ t.seed = b := by
  induction h with
  | refl => exact ⟨s, .refl, rfl⟩
  | tail _ hstep ih =>
      obtain ⟨t, ht, hseed⟩ := ih
      obtain ⟨p, q, hp, rfl, hchild⟩ := hstep
      obtain ⟨q', hchild', hq'⟩ := hchild.of_seed (hseed.trans hp.symm)
      exact ⟨q', ht.tail hchild', hq'⟩

theorem exists_way {b : Seed κ} (h : TransGen SeedStep s.seed b) :
    ∃ t, TransGen (Child defaults) s t ∧ t.seed = b := by
  obtain ⟨a, hfirst, hrest⟩ := TransGen.head'_iff.1 h
  obtain ⟨p, q, hp, rfl, hchild⟩ := hfirst
  obtain ⟨q', hchild', hq'⟩ := hchild.of_seed hp.symm
  rw [← hq'] at hrest
  obtain ⟨t, ht, hseed⟩ := exists_branch hrest
  exact ⟨t, .head' hchild' ht, hseed⟩

/-- What can come up in a walk over a value: parts of the value and of the
documents, under schemas of the documents. -/
def Within (c : DocumentContext J) (v : Value) (schema : Option Value)
    (a : Seed (DocumentContext J)) : Prop :=
  (v.Holds a.1 ∨ c.Held schema a.1) ∧ c.Local schema a.2

theorem finite_within (c : DocumentContext J) (v : Value)
    (schema : Option Value) : {a | Within c v schema a}.Finite :=
  (v.finite_holds.union (c.finite_held schema)).prod (c.finite_local schema)

theorem encloses_of_hasDefault {x d : Value} {name : String}
    (h : HasDefault (some x) name d) : x.Encloses d := by
  obtain ⟨_, ps, property, ⟨⟩, hps, hmem, hdefault⟩ := h
  have hproperty : property ∈ (Value.object ps).children :=
    List.mem_map_of_mem (f := Prod.snd) hmem
  exact ((Value.encloses_get? hps).tail hproperty).trans
    (Value.encloses_get? hdefault)

theorem within_of_seedStep {a b : Seed (DocumentContext J)}
    (h : Within c v schema a) (hstep : SeedStep a b) : Within c v schema b := by
  obtain ⟨s, t, rfl, rfl, hchild⟩ := hstep
  obtain ⟨hvalue, hlocal⟩ := h
  refine ⟨?_, hlocal.child hchild⟩
  rcases child_of_inserting hchild with hold |
    ⟨-, _, name, found, -, -, -, hnode, hdefault⟩
  · exact hvalue.imp (fun h => h.tail hold) fun h => h.holds (.single hold)
  · refine .inr ?_
    obtain ⟨x, _, _, rfl, -⟩ := id hdefault
    exact ((hlocal.nodeSchema hnode).held x rfl).holds
      (encloses_of_hasDefault hdefault).holds

/-- All branches are finite unless a default feeds itself. -/
theorem bounded_iff {context : Option (DocumentContext J)} :
    Bounded defaults ⟨v, .root, schema, context⟩ ↔
      ¬ FeedsItself ⟨v, .root, schema, context⟩ := by
  refine ⟨Bounded.not_feedsItself, fun h => ?_⟩
  cases context with
  | none => exact bounded_of_unreferring (.inl rfl)
  | some c =>
      let s : Site (DocumentContext J) := ⟨v, .root, schema, some c⟩
      have hstart : Within c v schema s.seed :=
        ⟨.inl .refl, DocumentContext.Local.start c schema⟩
      have hacc : Acc (fun b a => SeedStep a b) s.seed := by
        refine acc_of_acyclic (finite_within c v schema) hstart
          (fun a ha b hstep => within_of_seedStep ha hstep) fun b hb hcircle => ?_
        obtain ⟨t, ht, rfl⟩ := exists_branch hb
        obtain ⟨u, hu, hseed⟩ := exists_way hcircle
        exact h (feedsItself_of_again ht hu hseed)
      exact Subrelation.accessible (fun hchild => ⟨_, _, rfl, rfl, hchild⟩)
        (InvImage.accessible Site.seed hacc)

end

/-! ## When it ends -/

/-- Over documents the walk ends if no default feeds itself. If one does, the
walk does not end, unless it comes to a reference without a target. It always
ends if the schema refers to nothing, or if there is nothing to look a reference
up in. -/
theorem inserting_finishes {J : Judge} (v : Value) (schema : Option Value)
    (context : Option (DocumentContext J)) :
    (¬ FeedsItself ⟨v, .root, schema, context⟩ →
      Finishes defaults v schema context) ∧
    (FeedsItself ⟨v, .root, schema, context⟩ →
      (∀ t, ReflTransGen (Child defaults) ⟨v, .root, schema, context⟩ t →
        ∃ found, nodeSchema t.schema t.context = .ok found) →
      ¬ Finishes defaults v schema context) ∧
    (Unreferring schema context → Finishes defaults v schema context) := by
  refine ⟨fun h => ?_, fun hfeeds hfound => ?_, fun h => ?_⟩
  · exact finishes_iff.2 (bounded_iff.2 h).ends
  · intro hfinishes
    have hreturns := (finishes_iff.1 hfinishes).returns fun t ht => by
      obtain ⟨⟨found, inner⟩, hnode⟩ := hfound t ht
      exact ⟨_, _, _, .intro hnode rfl⟩
    exact hreturns.bounded.not_feedsItself hfeeds
  · have hbounded : Bounded defaults ⟨v, .root, schema, context⟩ :=
      bounded_of_unreferring h
    exact finishes_iff.2 hbounded.ends

theorem eq_of_hasDefault_chain {found : Option Value} {name : String} {d : Value}
    (hfound : found = none ∨ found = some chain ∨ found = some label)
    (h : HasDefault found name d) : d = .string "x" := by
  obtain ⟨schema, ps, property, hschema, hps, hmem, hdefault⟩ := h
  rcases hfound with rfl | rfl | rfl
  · cases hschema
  · cases hschema
    cases hps
    rcases List.mem_cons.1 hmem with heq | hmem
    · cases heq
      cases hdefault
    · cases List.mem_singleton.1 hmem
      cases hdefault
      rfl
  · cases hschema
    cases hps

/-- A label has nothing below it. -/
theorem not_feedsItself_chain (v : Value) :
    ¬ FeedsItself ⟨v, .root, some chain, some chainContext⟩ := by
  rintro ⟨p, t, u, hbranch, ⟨-, _, name, found, -, -, -, hnode, hdefault⟩, hbelow, -⟩
  obtain ⟨-, hfound⟩ := (onChain_of_branch hbranch).nodeSchema hnode
  have hlabel := eq_of_hasDefault_chain hfound hdefault
  obtain ⟨w, hchild, -⟩ := TransGen.head'_iff.1 hbelow
  rcases child_of_inserting hchild with hold | ⟨-, ms, _, _, hobject, -⟩
  · rw [hlabel] at hold
    cases hold
  · rw [hlabel] at hobject
    cases hobject

theorem inserting_finishes_chain :
    ¬ FeedsItself ⟨.object [("next", .object [])], .root, some chain,
      some chainContext⟩ ∧
    Finishes defaults (.object [("next", .object [])]) (some chain)
      (some chainContext) := by
  have hfeeds := not_feedsItself_chain (.object [("next", .object [])])
  exact ⟨hfeeds, (inserting_finishes _ _ _).1 hfeeds⟩

/-! ## Defaults without an end -/

/-- A default for a property whose schema is the whole one again. -/
def selfish : Value :=
  .object [("properties", .object [("a", .object [("$ref", .string "#"),
    ("default", .object [])])])]

theorem exhausted_of_selfish {depth : Nat}
    {s : Site (DocumentContext Validator.lenient)} (hvalue : s.value = .object [])
    (hcontext : s.context = some (Validator.lenientContext selfish))
    (hschema : s.schema = some selfish ∨ s.schema = some (.object
      [("$ref", .string "#"), ("default", .object [])])) :
    (walkAt defaults depth s).2 = .error .exhausted := by
  induction depth generalizing s with
  | zero => rfl
  | succ depth ih =>
      have hnode : nodeSchema s.schema s.context =
          .ok (some selfish, some (Validator.lenientContext selfish)) := by
        rcases hschema with hschema | hschema
        · rw [hschema, hcontext]
          rfl
        · rw [hschema, hcontext]
          rfl
      have hvisit : defaults.visit s.value s.pointer (some selfish) =
          .ok (.object [("a", .object [])]) := by
        rw [hvalue]
        rfl
      let t : Site (DocumentContext Validator.lenient) :=
        ⟨.object [], s.pointer.push "a",
          some (.object [("$ref", .string "#"), ("default", .object [])]),
          some (Validator.lenientContext selfish)⟩
      have hopens : Opens defaults s ⟨s.pointer, s.value, some selfish⟩
          (.object [("a", .object [])]) [t] := .intro hnode hvisit
      have ht : (walkAt defaults depth t).2 = .error .exhausted :=
        ih rfl rfl (.inr rfl)
      rw [walkAt_of_opens hopens, visitAll_cons_error ht]
      rfl

/-- A schema is accepted with which inserting defaults does not end. -/
theorem exists_unending :
    ¬ ∀ (J : Judge) (r : Registry Settings (DocumentContext J)) (net : Network)
        (calls : Nat) (schema : Value) (v : Validator (DocumentContext J)),
      r.compiler = J.compiler →
      (r.compile net calls schema).result = some (.ok v) →
      ∀ data : Value, Finishes defaults data (some v.schema) (some v.context) := by
  intro h
  have hclosed : Validator.isClosed selfish = true := by decide +kernel
  have hfinishes := h Validator.lenient Validator.lenientRegistry
    Network.unreachable 1 selfish ⟨selfish, Validator.lenientContext selfish⟩ rfl
    (Validator.compile_of_isClosed hclosed) (.object [])
  obtain ⟨depth, hended⟩ := finishes_iff.1 hfinishes
  exact hended (exhausted_of_selfish rfl rfl (.inl rfl))

end SchemaPipeline.Walk
