import Mathlib.Data.List.Nodup
import SchemaPipeline.Proofs.Walk.Sites

/-!
# No place is visited twice

The calls below a site all have pointers that go on from its own, and two
children of a node have pointers that no third one goes on from both: members
have distinct keys, elements distinct indices. So the calls of a walk are at
distinct places (`nodup_calls`), whatever its end.

For objects this rests on their keys being distinct, which is how every value
comes out of the reader, and on the visitor answering by such values too.
-/

namespace SchemaPipeline

/-! ## Pointers that go on from others -/

namespace Pointer

/-- The second pointer goes on from the first, or is the same. -/
def Above (p q : Pointer) : Prop := p.tokens <+: q.tokens

theorem Above.refl (p : Pointer) : p.Above p := List.prefix_refl _

theorem Above.trans {p q r : Pointer} (h : p.Above q) (h' : q.Above r) :
    p.Above r :=
  List.IsPrefix.trans h h'

theorem above_push (p : Pointer) (token : String) : p.Above (p.push token) :=
  List.prefix_append _ _

theorem ne_of_push_above {p q : Pointer} {token : String}
    (h : (p.push token).Above q) : p ≠ q := by
  rintro rfl
  have := h.length_le
  simp only [push, List.length_append, List.length_singleton] at this
  omega

theorem eq_of_push_above {p q : Pointer} {a b : String}
    (ha : (p.push a).Above q) (hb : (p.push b).Above q) : a = b := by
  have hlength : (p.push a).tokens.length = (p.push b).tokens.length := by
    simp only [push, List.length_append, List.length_singleton]
  have heq := (List.prefix_of_prefix_length_le ha hb (Nat.le_of_eq hlength)).eq_of_length
    hlength
  simpa [push] using heq

theorem indexToken_injective {i j : Nat} (h : indexToken i = indexToken j) :
    i = j := by
  have hdigits := String.ofList_injective h
  rw [← @Nat.ofDigitChars_ten_toDigits i, hdigits, Nat.ofDigitChars_ten_toDigits]

end Pointer

/-! ## Distinct keys -/

/-- The visitor answers values with distinct keys by such values. -/
def Visitor.KeepsProper (visitor : Visitor) : Prop :=
  ∀ v pointer schema u, v.Proper → visitor.visit v pointer schema = .ok u →
    u.Proper

theorem Value.Proper.child {v w : Value} (h : v.Proper) (hw : w ∈ v.children) :
    w.Proper := by
  cases v with
  | object ms =>
      obtain ⟨-, hmembers⟩ := (h : _ ∧ _)
      rw [Value.children] at hw
      induction ms with
      | nil => cases hw
      | cons m rest ih =>
          obtain ⟨hfirst, hrest⟩ := (hmembers : _ ∧ _)
          rcases List.mem_cons.1 hw with rfl | hw
          · exact hfirst
          · exact ih hw hrest
  | array xs =>
      rw [Value.children] at hw
      have hitems : properItems xs := h
      induction xs with
      | nil => cases hw
      | cons x rest ih =>
          obtain ⟨hfirst, hrest⟩ := (hitems : _ ∧ _)
          rcases List.mem_cons.1 hw with rfl | hw
          · exact hfirst
          · exact ih hrest hw hrest
  | _ => cases hw

namespace Walk

/-- The tokens of the children are distinct. -/
theorem nodup_branches {v : Value} (h : v.Proper) (schema : Option Value) :
    ((branches schema v).map Prod.fst).Nodup := by
  cases v with
  | object ms =>
      obtain ⟨hkeys, -⟩ := (h : _ ∧ _)
      rw [branches, List.map_map]
      exact (List.map_id _).symm ▸ hkeys
  | array xs =>
      rw [branches, List.map_map]
      exact List.nodup_range.map fun i j => Pointer.indexToken_injective
  | _ => exact List.nodup_nil

variable {κ : Type}

/-- Nothing goes on from the pointers of two children. -/
theorem sites_apart {v : Value} (h : v.Proper) (pointer : Pointer)
    (schema : Option Value) (context : Option κ) :
    (sites pointer schema context v).Pairwise fun s t =>
      ∀ q, s.pointer.Above q → ¬ t.pointer.Above q := by
  have htokens : (((branches schema v).zip v.children).map fun b => b.1.1).Nodup := by
    have hfst : ((branches schema v).zip v.children).map Prod.fst =
        branches schema v :=
      List.map_fst_zip (Nat.le_of_eq (length_branches schema v))
    have := nodup_branches h schema
    rw [← hfst, List.map_map] at this
    exact this
  rw [sites, List.pairwise_map]
  rw [List.Nodup, List.pairwise_map] at htokens
  exact htokens.imp fun hne q hs ht => hne (Pointer.eq_of_push_above hs ht)

variable [SchemaContext κ] {visitor : Visitor}

section

variable {s t : Site κ} {call : Call} {u : Value} {below : List (Site κ)}
  (h : Opens visitor s call u below)
include h

theorem Opens.push (ht : t ∈ below) : ∃ token, t.pointer = s.pointer.push token := by
  cases h with
  | intro =>
      obtain ⟨b, -, rfl⟩ := List.mem_map.1 ht
      exact ⟨b.1.1, rfl⟩

theorem Opens.child (ht : t ∈ below) : t.value ∈ u.children :=
  h.map_value ▸ List.mem_map_of_mem ht

theorem Opens.above (ht : t ∈ below) : s.pointer.Above t.pointer := by
  obtain ⟨token, htoken⟩ := h.push ht
  rw [htoken]
  exact Pointer.above_push _ _

theorem Opens.ne {q : Pointer} (ht : t ∈ below) (hq : t.pointer.Above q) :
    s.pointer ≠ q := by
  obtain ⟨token, htoken⟩ := h.push ht
  rw [htoken] at hq
  exact Pointer.ne_of_push_above hq

theorem Opens.proper (hkeeps : visitor.KeepsProper) (hproper : s.value.Proper)
    (ht : t ∈ below) : t.value.Proper := by
  have hchild := h.child ht
  cases h with
  | intro _ hvisit => exact (hkeeps _ _ _ _ hproper hvisit).child hchild

theorem Opens.apart (hkeeps : visitor.KeepsProper) (hproper : s.value.Proper) :
    below.Pairwise fun t t' => ∀ q, t.pointer.Above q → ¬ t'.pointer.Above q := by
  cases h with
  | intro _ hvisit => exact sites_apart (hkeeps _ _ _ _ hproper hvisit) _ _ _

end

/-- All calls of a walk are at its site or below. -/
theorem above_of_call {depth : Nat} {s : Site κ} {call : Call}
    (h : call ∈ (walkAt visitor depth s).1) : s.pointer.Above call.pointer := by
  induction depth generalizing s with
  | zero => cases h
  | succ depth ih =>
      obtain ⟨_, _, hwalk⟩ | ⟨_, _, _, _, _, hwalk⟩ | ⟨first, u, below, hopens⟩ :=
        walkAt_cases visitor s
      · rw [hwalk] at h
        cases h
      · rw [hwalk] at h
        cases List.mem_singleton.1 h
        exact .refl _
      · obtain ⟨entered, hentered, htrace⟩ :=
          visitAll_trace (walkAt visitor depth) below
        rw [walkAt_of_opens hopens, htrace] at h
        rcases List.mem_cons.1 h with rfl | hbelow
        · exact hopens.visit.1 ▸ .refl _
        · obtain ⟨t, ht, hcall⟩ := List.mem_flatMap.1 hbelow
          exact (hopens.above (hentered.subset ht)).trans (ih hcall)

/-- A walk calls the visitor at most once at a place. -/
theorem nodup_calls (hkeeps : visitor.KeepsProper) {depth : Nat} {s : Site κ}
    (hproper : s.value.Proper) :
    ((walkAt visitor depth s).1.map Call.pointer).Nodup := by
  induction depth generalizing s with
  | zero => exact List.nodup_nil
  | succ depth ih =>
      obtain ⟨_, _, hwalk⟩ | ⟨_, _, _, _, _, hwalk⟩ | ⟨first, u, below, hopens⟩ :=
        walkAt_cases visitor s
      · rw [hwalk]
        exact List.nodup_nil
      · rw [hwalk]
        exact List.nodup_singleton _
      · obtain ⟨entered, hentered, htrace⟩ :=
          visitAll_trace (walkAt visitor depth) below
        rw [walkAt_of_opens hopens, htrace, List.map_cons, List.map_flatMap,
          List.nodup_cons, List.nodup_flatMap]
        refine ⟨fun hmem => ?_, fun t ht => ?_, ?_⟩
        · -- the call at the site is above all others
          obtain ⟨t, ht, hcall⟩ := List.mem_flatMap.1 hmem
          obtain ⟨c, hc, hpointer⟩ := List.mem_map.1 hcall
          exact hopens.ne (hentered.subset ht) (above_of_call hc)
            (hopens.visit.1.symm.trans hpointer.symm)
        · exact ih (hopens.proper hkeeps hproper (hentered.subset ht))
        · refine ((hopens.apart hkeeps hproper).sublist hentered.sublist).imp
            fun hapart q hs ht => ?_
          obtain ⟨c, hc, rfl⟩ := List.mem_map.1 hs
          obtain ⟨c', hc', hpointer⟩ := List.mem_map.1 ht
          exact hapart _ (above_of_call hc) (hpointer ▸ above_of_call hc')

end Walk

end SchemaPipeline
