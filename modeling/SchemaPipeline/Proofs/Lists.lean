import Mathlib.Data.List.Forall2
import Mathlib.Data.List.Infix
import Mathlib.Data.List.Pairwise

/-!
# Lists

Facts about lists that say nothing about schemas: counting, places and prefixes,
and lists that are related element by element.
-/

namespace SchemaPipeline

variable {α β γ : Type}

/-! ## Counting -/

/-- A list of lists is no longer than what is in them, but for empty ones. -/
theorem length_le_flatten [DecidableEq α] (lists : List (List α)) :
    lists.length ≤ lists.flatten.length + lists.count [] := by
  induction lists with
  | nil => exact Nat.zero_le _
  | cons l rest ih =>
      cases l with
      | nil =>
          simp only [List.length_cons, List.flatten_cons, List.nil_append,
            List.count_cons_self]
          omega
      | cons x l =>
          simp only [List.length_cons, List.flatten_cons, List.length_append,
            List.count_cons_of_ne (List.cons_ne_nil x l)]
          omega

section

variable [DecidableEq α] {x : α} {done : List α}

theorem two_le_count {before after : List α} (h : x ∈ before) :
    2 ≤ (before ++ x :: after).count x := by
  have hpos := List.count_pos_iff.2 h
  rw [List.count_append, List.count_cons_self]
  omega

theorem countP_notMem_cons (hx : x ∉ done) (xs : List α) :
    xs.countP (· ∉ done) = xs.countP (· ∉ x :: done) + xs.count x := by
  induction xs with
  | nil => rfl
  | cons y rest ih =>
      rw [List.countP_cons, List.countP_cons, List.count_cons, ih]
      by_cases hy : y = x
      · subst hy
        simp [hx]
        omega
      · simp [hy]
        omega

theorem countP_notMem_eq_zero {xs : List α} :
    xs.countP (· ∉ done) = 0 ↔ xs ⊆ done := by
  rw [List.countP_eq_zero]
  exact forall₂_congr fun y _ => by simp

end

/-! ## Places and prefixes -/

theorem findSome?_zipIdx (f : α → Option β) (xs : List α) (k : Nat) :
    (xs.zipIdx k).findSome? (fun e => f e.1) = xs.findSome? f := by
  induction xs generalizing k with
  | nil => rfl
  | cons x rest ih =>
      rw [List.zipIdx_cons, List.findSome?_cons, List.findSome?_cons, ih]

theorem pairwise_inits (l : List α) : l.inits.Pairwise (· <+: ·) := by
  induction l with
  | nil => exact List.pairwise_singleton _ _
  | cons a l ih =>
      rw [List.inits_cons]
      refine List.pairwise_cons.2 ⟨fun _ _ => List.nil_prefix, ?_⟩
      exact List.pairwise_map.2 (ih.imp fun h => List.cons_prefix_cons.2 ⟨rfl, h⟩)

/-! ## Element by element -/

theorem mapM_id_eq_some_iff {l : List (Option α)} {xs : List α} :
    l.mapM id = some xs ↔ l = xs.map some := by
  induction l generalizing xs with
  | nil => cases xs <;> simp
  | cons a l ih =>
      cases xs <;> simp [List.mapM_cons, Option.bind_eq_some_iff, ih]

section

variable {R : α → β → Prop} {as : List α} {bs : List β}

theorem exists_of_forall₂ (h : List.Forall₂ R as bs) {a : α} (ha : a ∈ as) :
    ∃ b, R a b := by
  induction h with
  | nil => cases ha
  | cons hab _ ih =>
      rcases List.mem_cons.1 ha with rfl | ha
      · exact ⟨_, hab⟩
      · exact ih ha

theorem exists_of_mem_zipWith {f : α → β → γ} (h : List.Forall₂ R as bs) {c : γ}
    (hc : c ∈ List.zipWith f as bs) : ∃ a ∈ as, ∃ b, R a b ∧ c = f a b := by
  induction h with
  | nil => cases hc
  | @cons a b _ _ hab _ ih =>
      rcases List.mem_cons.1 hc with rfl | hc
      · exact ⟨a, List.mem_cons_self, b, hab, rfl⟩
      · obtain ⟨a', ha', b', hab', rfl⟩ := ih hc
        exact ⟨a', List.mem_cons_of_mem _ ha', b', hab', rfl⟩

theorem forall₂_zipWith_left {S : α → γ → Prop} {f : α → β → γ}
    (h : List.Forall₂ R as bs) (hf : ∀ a b, R a b → S a (f a b)) :
    List.Forall₂ S as (List.zipWith f as bs) := by
  induction h with
  | nil => exact .nil
  | cons hab _ ih => exact .cons (hf _ _ hab) ih

theorem forall₂_zipWith_right {S : γ → β → Prop} {f : α → β → γ}
    (h : List.Forall₂ R as bs) (hf : ∀ a b, R a b → S (f a b) b) :
    List.Forall₂ S (List.zipWith f as bs) bs := by
  induction h with
  | nil => exact .nil
  | cons hab _ ih => exact .cons (hf _ _ hab) ih

end

end SchemaPipeline
