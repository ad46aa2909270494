import Mathlib.Logic.Relation
import Mathlib.Order.WellFounded
import SchemaPipeline.Proofs.Walk.Order

/-!
# Walks that end

A bound on the depth cuts a walk off; whether the walk would have come to an end
is another question. It `Ends` if some bound is enough, and then every larger
bound gives the same calls and the same result (`finishes_iff`).

A walk ends if the walks below it do, and of these only the ones that it comes
to count: those behind a sibling that fails or goes on for ever are never
entered (`ends_of_below`). Since a node has finitely many children, a walk can
only go on for ever along an infinite branch: it ends if its branches are finite
(`Bounded.ends`), and if it returns a value they are (`Returns.bounded`).
-/

namespace SchemaPipeline.Walk

variable {κ : Type} [SchemaContext κ]

def Ends (visitor : Visitor) (s : Site κ) : Prop :=
  ∃ depth, (walkAt visitor depth s).2 ≠ .error .exhausted

def Returns (visitor : Visitor) (s : Site κ) : Prop :=
  ∃ depth w, (walkAt visitor depth s).2 = .ok w

/-- The walk from the root of a value is over after finitely many calls: from
some depth on the bound makes no difference. -/
def Finishes (visitor : Visitor) (v : Value) (schema : Option Value)
    (context : Option κ) : Prop :=
  ∃ whole : Step Value, whole.2 ≠ .error .exhausted ∧
    ∃ depth, ∀ depth', depth ≤ depth' →
      run visitor depth' v schema context = whole

/-- The walk comes to a site. -/
def ComesTo (visitor : Visitor) (s r : Site κ) : Prop :=
  ∃ trace, Leads visitor s trace r

variable {visitor : Visitor} {s t r : Site κ}

theorem finishes_iff {v : Value} {schema : Option Value} {context : Option κ} :
    Finishes visitor v schema context ↔
      Ends visitor ⟨v, .root, schema, context⟩ := by
  constructor
  · rintro ⟨whole, hended, depth, hwhole⟩
    refine ⟨depth, fun h => hended ?_⟩
    rw [← hwhole depth (Nat.le_refl depth)]
    exact h
  · rintro ⟨depth, hended⟩
    exact ⟨_, hended, depth, fun depth' hdepth => walkAt_mono hdepth hended⟩

/-! ## Walks of a list of sites -/

theorem map_ne_exhausted {α β : Type} {f : α → β} {result : Except Stop α}
    (h : result ≠ .error .exhausted) : result.map f ≠ .error .exhausted := by
  cases result with
  | error e =>
      intro he
      cases he
      exact h rfl
  | ok a => exact nofun

theorem visitAll_mono {depth depth' : Nat} {below : List (Site κ)}
    (hdepth : depth ≤ depth')
    (h : (visitAll (walkAt visitor depth) below).2 ≠ .error .exhausted) :
    visitAll (walkAt visitor depth') below =
      visitAll (walkAt visitor depth) below :=
  visitAll_congr (fun _ _ ht => walkAt_mono hdepth ht) h

theorem returns_mono {depth depth' : Nat} (hdepth : depth ≤ depth') {w : Value}
    (h : (walkAt visitor depth s).2 = .ok w) :
    (walkAt visitor depth' s).2 = .ok w := by
  rw [walkAt_mono hdepth (by rw [h]; exact nofun), h]

/-- Finitely many walks that return do so within one bound. -/
theorem exists_depth {below : List (Site κ)}
    (h : ∀ t ∈ below, Returns visitor t) :
    ∃ depth, ∀ t ∈ below, ∃ w, (walkAt visitor depth t).2 = .ok w := by
  induction below with
  | nil => exact ⟨0, nofun⟩
  | cons t rest ih =>
      obtain ⟨depth, w, hw⟩ := h t List.mem_cons_self
      obtain ⟨depth', hrest⟩ := ih fun t ht => h t (List.mem_cons_of_mem _ ht)
      refine ⟨max depth depth', fun r hr => ?_⟩
      rcases List.mem_cons.1 hr with rfl | hr
      · exact ⟨w, returns_mono (Nat.le_max_left ..) hw⟩
      · obtain ⟨w', hw'⟩ := hrest r hr
        exact ⟨w', returns_mono (Nat.le_max_right ..) hw'⟩

/-- The walks of a list end if each does to which the ones before it let it
come. -/
theorem visitAll_ends {below : List (Site κ)}
    (h : ∀ before t after, below = before ++ t :: after →
      (∀ b ∈ before, Returns visitor b) → Ends visitor t) :
    ∃ depth, (visitAll (walkAt visitor depth) below).2 ≠ .error .exhausted := by
  induction below with
  | nil => exact ⟨0, nofun⟩
  | cons t rest ih =>
      obtain ⟨depth, hended⟩ := h [] t rest rfl nofun
      cases ht : (walkAt visitor depth t).2 with
      | error e =>
          refine ⟨depth, ?_⟩
          rw [visitAll_cons_error ht]
          rw [ht] at hended
          intro he
          cases he
          exact hended rfl
      | ok w =>
          obtain ⟨depth', hrest⟩ := ih fun before r after hbelow hbefore => by
            refine h (t :: before) r after (by rw [hbelow]; rfl) fun b hb => ?_
            rcases List.mem_cons.1 hb with rfl | hb
            · exact ⟨depth, w, ht⟩
            · exact hbefore b hb
          refine ⟨max depth depth', ?_⟩
          rw [visitAll_cons_ok (returns_mono (Nat.le_max_left ..) ht),
            visitAll_mono (Nat.le_max_right ..) hrest]
          exact map_ne_exhausted hrest

/-! ## Walks of a site -/

/-- A walk ends if each walk below it does to which it comes. -/
theorem ends_of_below
    (h : ∀ call u before t after,
      Opens visitor s call u (before ++ t :: after) →
      (∀ b ∈ before, Returns visitor b) → Ends visitor t) :
    Ends visitor s := by
  obtain ⟨_, _, hwalk⟩ | ⟨_, _, _, _, _, hwalk⟩ | ⟨call, u, below, hopens⟩ :=
    walkAt_cases visitor s
  · exact ⟨0 + 1, by rw [hwalk]; exact nofun⟩
  · exact ⟨0 + 1, by rw [hwalk]; exact nofun⟩
  · have hbelow : ∃ depth,
        (visitAll (walkAt visitor depth) below).2 ≠ .error .exhausted :=
      visitAll_ends fun before t after heq =>
        h call u before t after (heq ▸ hopens)
    obtain ⟨depth, hended⟩ := hbelow
    refine ⟨depth + 1, ?_⟩
    rw [walkAt_of_opens hopens]
    exact map_ne_exhausted hended

theorem ComesTo.refl (visitor : Visitor) (s : Site κ) : ComesTo visitor s s :=
  ⟨[], .here s⟩

theorem ComesTo.child {call : Call} {u : Value} {before after : List (Site κ)}
    (hopens : Opens visitor s call u (before ++ t :: after))
    (hbefore : ∀ b ∈ before, Returns visitor b) (h : ComesTo visitor t r) :
    ComesTo visitor s r := by
  obtain ⟨depth, hdepth⟩ := exists_depth hbefore
  obtain ⟨trace, hleads⟩ := h
  exact ⟨_, .child hopens hdepth hleads⟩

/-! ## Branches -/

/-- The walk of one site may go on with the other. -/
def Child (visitor : Visitor) (s t : Site κ) : Prop :=
  ∃ call u below, Opens visitor s call u below ∧ t ∈ below

/-- What the walk comes to lies on one of its branches. -/
theorem ComesTo.branch (h : ComesTo visitor s r) :
    Relation.ReflTransGen (Child visitor) s r := by
  obtain ⟨trace, hleads⟩ := h
  induction hleads with
  | here s => exact .refl
  | child hopens _ _ ih =>
      exact .head ⟨_, _, _, hopens, List.mem_append_right _ List.mem_cons_self⟩ ih

/-- Every branch of the walk is finite. -/
def Bounded (visitor : Visitor) (s : Site κ) : Prop :=
  Acc (fun t s => Child visitor s t) s

theorem Bounded.of_branch (h : Bounded visitor s)
    (hbranch : Relation.ReflTransGen (Child visitor) s t) : Bounded visitor t := by
  induction hbranch with
  | refl => exact h
  | tail _ hchild ih => exact ih.inv hchild

theorem Bounded.ends (h : Bounded visitor s) : Ends visitor s := by
  induction h with
  | intro s _ ih =>
      refine ends_of_below fun call u before t after hopens _ => ?_
      exact ih t ⟨call, u, _, hopens, List.mem_append_right _ List.mem_cons_self⟩

/-- What is below a site is settled by the site. -/
theorem Opens.below_eq {call call' : Call} {u u' : Value}
    {below below' : List (Site κ)} (h : Opens visitor s call u below)
    (h' : Opens visitor s call' u' below') : below' = below := by
  cases h with
  | intro hschema hvisit =>
      cases h' with
      | intro hschema' hvisit' =>
          cases hschema.symm.trans hschema'
          cases hvisit.symm.trans hvisit'
          rfl

theorem Child.mem {call : Call} {u : Value} {below : List (Site κ)}
    (h : Child visitor s t) (hopens : Opens visitor s call u below) :
    t ∈ below := by
  obtain ⟨call', u', below', hopens', ht⟩ := h
  exact hopens.below_eq hopens' ▸ ht

theorem Returns.bounded (h : Returns visitor s) : Bounded visitor s := by
  obtain ⟨depth, w, hw⟩ := h
  induction depth generalizing s w with
  | zero => cases hw
  | succ depth ih =>
      obtain ⟨call, u, below, outs, hopens, hresults, -, -, -⟩ := walkAt_ok hw
      refine .intro s fun t hchild => ?_
      obtain ⟨w', hw'⟩ := exists_of_forall₂ hresults (hchild.mem hopens)
      exact ih w' hw'

/-- A walk that ends returns a value, unless it comes to a site where the visitor
does not answer. -/
theorem Ends.returns (h : Ends visitor s)
    (hopen : ∀ t, Relation.ReflTransGen (Child visitor) s t →
      ∃ call u below, Opens visitor t call u below) : Returns visitor s := by
  obtain ⟨depth, hended⟩ := h
  cases hresult : (walkAt visitor depth s).2 with
  | ok w => exact ⟨depth, w, hresult⟩
  | error e =>
      cases e with
      | exhausted => exact absurd hresult hended
      | failure e =>
          obtain ⟨before, r, last, -, hleads, hfails⟩ := walkAt_failure hresult
          have hcomes : ComesTo visitor s r := ⟨before, hleads⟩
          obtain ⟨call, u, below, hopens⟩ := hopen r hcomes.branch
          cases hopens with
          | intro hschema hvisit =>
              cases hfails with
              | unresolved hschema' => cases hschema.symm.trans hschema'
              | refused hschema' hvisit' =>
                  cases hschema.symm.trans hschema'
                  cases hvisit.symm.trans hvisit'

end SchemaPipeline.Walk
