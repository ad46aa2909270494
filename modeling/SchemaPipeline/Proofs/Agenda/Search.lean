import Mathlib.Data.List.Chain
import SchemaPipeline.Proofs.Agenda.Graph

/-!
# The search for a way back

`pathTo` goes depth first and never enters a name twice, also not on another
branch: the names it has entered are handed on from branch to branch. That
makes two things worth proving. A path it finds is a simple one, because
every name on it was new when the search stood there. And a path it does not
find is not there: what a failed search leaves behind is closed under edges
as far as it is new, so a name that was cut off because it had been entered
hides nothing.

The fuel never decides. A step down enters a registered name for the first
time, so the names that are still to be entered bound the depth; `unseen`
counts them, and any two fuels above the count search alike.
-/

namespace SchemaPipeline

namespace Agenda

open Relation (TransGen ReflTransGen)

variable {α : Type}

/-- How many registered names the search has not entered. -/
def unseen (a : Agenda α) (seen : List String) : Nat :=
  a.names.countP (· ∉ seen)

theorem unseen_le_size (a : Agenda α) (seen : List String) :
    a.unseen seen ≤ a.size := by
  have h := List.countP_le_length (p := (· ∉ seen)) (l := a.names)
  rw [names, List.length_map] at h
  exact h

theorem unseen_le_of_subset {a : Agenda α} {seen seen' : List String}
    (h : seen ⊆ seen') : a.unseen seen' ≤ a.unseen seen := by
  refine List.countP_mono_left fun x _ hx => ?_
  simp only [decide_eq_true_eq] at hx ⊢
  exact fun hmem => hx (h hmem)

/-- A registered name that is entered is one less to enter. -/
theorem unseen_cons_lt {a : Agenda α} {seen : List String} {x : String}
    (hx : x ∈ a.names) (hnew : x ∉ seen) :
    a.unseen (x :: seen) < a.unseen seen := by
  have hsplit : a.names.filter (· ∉ x :: seen) =
      (a.names.filter (· ∉ seen)).filter (· ≠ x) := by
    rw [List.filter_filter]
    exact List.filter_congr fun y _ => by simp [not_or]
  rw [unseen, unseen, List.countP_eq_length_filter,
    List.countP_eq_length_filter, hsplit]
  refine List.length_filter_lt_length_iff_exists.2 ⟨x, ?_, by simp⟩
  exact List.mem_filter.2 ⟨hx, by simpa using hnew⟩

/-- What a step of the search does: it has arrived, or it stops at a name that
was entered before or is not registered, or it goes on from what the task
requires. -/
theorem pathTo_cases (a : Agenda α) (target x : String) (seen : List String) :
    (x = target ∧ ∀ fuel,
      a.pathTo target (fuel + 1) x seen = (some [x], seen)) ∨
    (x ≠ target ∧ x ∈ seen ∧ ∀ fuel,
      a.pathTo target (fuel + 1) x seen = (none, seen)) ∨
    (x ≠ target ∧ x ∉ seen ∧ a.find? x = none ∧ ∀ fuel,
      a.pathTo target (fuel + 1) x seen = (none, x :: seen)) ∨
    ∃ t, x ≠ target ∧ x ∉ seen ∧ a.find? x = some t ∧ ∀ fuel,
      a.pathTo target (fuel + 1) x seen =
        Prod.map (Option.map (x :: ·)) id
          (firstPath (a.pathTo target fuel) t.prerequisites (x :: seen)) := by
  by_cases hx : x = target
  · exact .inl ⟨hx, fun fuel => by rw [pathTo, if_pos hx]⟩
  by_cases hold : x ∈ seen
  · exact .inr (.inl ⟨hx, hold, fun fuel => by
      rw [pathTo, if_neg hx, if_pos hold]⟩)
  cases hfind : a.find? x with
  | none =>
      refine .inr (.inr (.inl ⟨hx, hold, rfl, fun fuel => ?_⟩))
      rw [pathTo, if_neg hx, if_neg hold, hfind]
  | some t =>
      refine .inr (.inr (.inr ⟨t, hx, hold, rfl, fun fuel => ?_⟩))
      rw [pathTo, if_neg hx, if_neg hold, hfind]
      dsimp only
      split
      · next heq => rw [heq]; rfl
      · next heq => rw [heq]; rfl

/-! ## What a search leaves behind -/

theorem firstPath_subset {search : String → Search}
    (hs : ∀ x seen, seen ⊆ (search x seen).2) :
    ∀ (xs : List String) (seen : List String),
      seen ⊆ (firstPath search xs seen).2 := by
  intro xs
  induction xs with
  | nil => intro seen; exact List.Subset.refl _
  | cons x rest ih =>
      intro seen
      have hx := hs x seen
      rw [firstPath]
      split
      · next path seen' heq => rw [heq] at hx; exact hx
      · next seen' heq => rw [heq] at hx; exact List.Subset.trans hx (ih seen')

theorem pathTo_subset (a : Agenda α) (target : String) :
    ∀ (fuel : Nat) (x : String) (seen : List String),
      seen ⊆ (a.pathTo target fuel x seen).2 := by
  intro fuel
  induction fuel with
  | zero => intro x seen; exact List.Subset.refl _
  | succ f ih =>
      intro x seen
      obtain ⟨-, heq⟩ | ⟨-, -, heq⟩ | ⟨-, -, -, heq⟩ | ⟨t, -, -, -, heq⟩ :=
        a.pathTo_cases target x seen <;> rw [heq]
      · exact List.Subset.refl _
      · exact List.Subset.refl _
      · exact List.subset_cons_self x seen
      · exact List.Subset.trans (List.subset_cons_self x seen)
          (firstPath_subset ih t.prerequisites (x :: seen))

/-! ## The path that is found -/

/-- A path along edges whose names are all different, and new but for the
target. -/
structure SimplePath (a : Agenda α) (seen : List String)
    (source target : String) (path : List String) : Prop where
  starts : path.head? = some source
  ends : path.getLast? = some target
  linked : path.IsChain a.Edge
  distinct : path.Nodup
  fresh : ∀ x ∈ path, x ≠ target → x ∉ seen

theorem SimplePath.stay (a : Agenda α) (seen : List String)
    (target : String) : a.SimplePath seen target target [target] where
  starts := rfl
  ends := rfl
  linked := .singleton _
  distinct := List.nodup_singleton _
  fresh := fun x hx hne => absurd (by simpa using hx) hne

theorem SimplePath.of_subset {a : Agenda α} {seen seen' : List String}
    {source target : String} {path : List String}
    (h : a.SimplePath seen' source target path) (hsub : seen ⊆ seen') :
    a.SimplePath seen source target path :=
  { h with fresh := fun x hx hne hmem => h.fresh x hx hne (hsub hmem) }

theorem SimplePath.cons {a : Agenda α} {seen : List String}
    {x source target : String} {path : List String}
    (h : a.SimplePath (x :: seen) source target path)
    (hedge : a.Edge x source) (hne : x ≠ target) (hnew : x ∉ seen) :
    a.SimplePath seen x target (x :: path) where
  starts := rfl
  ends := by rw [List.getLast?_cons, h.ends]; rfl
  linked := List.isChain_cons.2 ⟨fun y hy => by
    rw [h.starts, Option.mem_some_iff] at hy
    exact hy ▸ hedge, h.linked⟩
  distinct := List.nodup_cons.2
    ⟨fun hmem => h.fresh x hmem hne List.mem_cons_self, h.distinct⟩
  fresh := by
    intro y hy hyt hmem
    rcases List.mem_cons.1 hy with rfl | hy
    · exact hnew hmem
    · exact h.fresh y hy hyt (List.mem_cons_of_mem x hmem)

/-- Some search of the list found the path, with at least as many names
entered before. -/
theorem firstPath_some {search : String → Search}
    (hs : ∀ x seen, seen ⊆ (search x seen).2) :
    ∀ {xs seen path}, (firstPath search xs seen).1 = some path →
      ∃ x ∈ xs, ∃ seen', seen ⊆ seen' ∧ (search x seen').1 = some path := by
  intro xs
  induction xs with
  | nil => intro seen path h; simp [firstPath] at h
  | cons x rest ih =>
      intro seen path h
      have hx := hs x seen
      rw [firstPath] at h
      split at h
      · next found seen' heq =>
          refine ⟨x, List.mem_cons_self, seen, List.Subset.refl _, ?_⟩
          rw [heq]
          exact h
      · next seen' heq =>
          rw [heq] at hx
          obtain ⟨y, hy, seen'', hsub, hfound⟩ := ih h
          exact ⟨y, List.mem_cons_of_mem x hy, seen'', List.Subset.trans hx hsub, hfound⟩

theorem pathTo_simple {a : Agenda α} {target : String} :
    ∀ {fuel x seen path}, (a.pathTo target fuel x seen).1 = some path →
      a.SimplePath seen x target path := by
  intro fuel
  induction fuel with
  | zero => intro x seen path h; simp [pathTo] at h
  | succ f ih =>
      intro x seen path h
      obtain ⟨rfl, heq⟩ | ⟨-, -, heq⟩ | ⟨-, -, -, heq⟩ |
        ⟨t, hne, hnew, ht, heq⟩ := a.pathTo_cases target x seen <;>
        rw [heq] at h
      · obtain rfl : [x] = path := Option.some.inj h
        exact SimplePath.stay a seen x
      · cases h
      · cases h
      · obtain ⟨rest, hrest, rfl⟩ := Option.map_eq_some_iff.1 h
        obtain ⟨p, hp, seen', hsub, hfound⟩ :=
          firstPath_some (pathTo_subset a target f) hrest
        exact ((ih hfound).of_subset hsub).cons (edge_of_find? ht hp) hne hnew

/-! ## The path that is not found -/

/-- From the first names to the second, the search has entered no target, and
everything that the new names have edges to. -/
structure Explored (a : Agenda α) (target : String)
    (seen seen' : List String) : Prop where
  grows : seen ⊆ seen'
  misses : ∀ x ∈ seen', x ∉ seen → x ≠ target
  closed : ∀ x ∈ seen', x ∉ seen → ∀ y, a.Edge x y → y ∈ seen'

theorem Explored.refl (a : Agenda α) (target : String)
    (seen : List String) : a.Explored target seen seen where
  grows := List.Subset.refl _
  misses := fun _ hx hnew => absurd hx hnew
  closed := fun _ hx hnew => absurd hx hnew

theorem Explored.trans {a : Agenda α} {target : String}
    {seen₁ seen₂ seen₃ : List String} (h₁ : a.Explored target seen₁ seen₂)
    (h₂ : a.Explored target seen₂ seen₃) :
    a.Explored target seen₁ seen₃ where
  grows := List.Subset.trans h₁.grows h₂.grows
  misses := by
    intro x hx hnew
    by_cases hmid : x ∈ seen₂
    · exact h₁.misses x hmid hnew
    · exact h₂.misses x hx hmid
  closed := by
    intro x hx hnew y hedge
    by_cases hmid : x ∈ seen₂
    · exact h₂.grows (h₁.closed x hmid hnew y hedge)
    · exact h₂.closed x hx hmid y hedge

/-- A name that was entered, once all that it has edges to is. -/
theorem Explored.enter {a : Agenda α} {target x : String}
    {seen seen' : List String} (h : a.Explored target (x :: seen) seen')
    (hne : x ≠ target) (hall : ∀ y, a.Edge x y → y ∈ seen') :
    a.Explored target seen seen' where
  grows := List.Subset.trans (List.subset_cons_self x seen) h.grows
  misses := by
    intro y hy hnew
    by_cases hyx : y = x
    · exact hyx ▸ hne
    · exact h.misses y hy (by simp [hyx, hnew])
  closed := by
    intro y hy hnew z hedge
    by_cases hyx : y = x
    · exact hall z (hyx ▸ hedge)
    · exact h.closed y hy (by simp [hyx, hnew]) z hedge

theorem firstPath_none {a : Agenda α} {target : String}
    {search : String → Search} {start : List String}
    (hs : ∀ x seen, start ⊆ seen → (search x seen).1 = none →
      x ∈ (search x seen).2 ∧ a.Explored target seen (search x seen).2) :
    ∀ (xs : List String) {seen}, start ⊆ seen →
      (firstPath search xs seen).1 = none →
      xs ⊆ (firstPath search xs seen).2 ∧
        a.Explored target seen (firstPath search xs seen).2 := by
  intro xs
  induction xs with
  | nil =>
      intro seen _ _
      exact ⟨List.nil_subset _, Explored.refl a target seen⟩
  | cons x rest ih =>
      intro seen hstart h
      have hx := hs x seen hstart
      rw [firstPath] at h ⊢
      split at h
      · cases h
      · next seen' heq =>
          rw [heq] at hx
          obtain ⟨hmem, hexp⟩ := hx rfl
          obtain ⟨hsub, hrest⟩ := ih (List.Subset.trans hstart hexp.grows) h
          exact ⟨List.cons_subset.2 ⟨hrest.grows hmem, hsub⟩,
            hexp.trans hrest⟩

theorem pathTo_none {a : Agenda α} {target : String} :
    ∀ {fuel x seen}, a.unseen seen < fuel →
      (a.pathTo target fuel x seen).1 = none →
      x ∈ (a.pathTo target fuel x seen).2 ∧
        a.Explored target seen (a.pathTo target fuel x seen).2 := by
  intro fuel
  induction fuel with
  | zero => intro x seen hf _; omega
  | succ f ih =>
      intro x seen hf h
      obtain ⟨-, heq⟩ | ⟨-, hold, heq⟩ | ⟨hne, -, hnone, heq⟩ |
        ⟨t, hne, hnew, ht, heq⟩ := a.pathTo_cases target x seen <;>
        rw [heq] at h ⊢
      · cases h
      · exact ⟨hold, Explored.refl a target seen⟩
      · refine ⟨List.mem_cons_self,
          (Explored.refl a target (x :: seen)).enter hne fun y hedge => ?_⟩
        exact absurd (name_mem_of_edge hedge) (find?_eq_none.1 hnone)
      · have hlt := unseen_cons_lt (mem_names.2 ⟨t, find?_eq_some.1 ht⟩) hnew
        have hsearch : ∀ y s, x :: seen ⊆ s →
            (a.pathTo target f y s).1 = none →
            y ∈ (a.pathTo target f y s).2 ∧
              a.Explored target s (a.pathTo target f y s).2 := by
          intro y s hsub
          have := unseen_le_of_subset (a := a) hsub
          exact ih (by omega)
        obtain ⟨hsub, hexp⟩ := firstPath_none hsearch t.prerequisites
          (List.Subset.refl _) (Option.map_eq_none_iff.1 h)
        refine ⟨hexp.grows List.mem_cons_self,
          hexp.enter hne fun y hedge => ?_⟩
        exact hsub ((edge_iff_of_find? ht).1 hedge)

/-- A search that starts with nothing entered finds a path if there is
one. -/
theorem pathTo_complete {a : Agenda α} {source target : String} {fuel : Nat}
    (hf : a.size < fuel) (h : (a.pathTo target fuel source []).1 = none) :
    ¬ ReflTransGen a.Edge source target := by
  have hlt : a.unseen [] < fuel :=
    Nat.lt_of_le_of_lt (unseen_le_size a []) hf
  obtain ⟨hmem, hexp⟩ := pathTo_none hlt h
  have hreach : ∀ y, ReflTransGen a.Edge source y →
      y ∈ (a.pathTo target fuel source []).2 := by
    intro y hpath
    induction hpath with
    | refl => exact hmem
    | tail _ hedge ih => exact hexp.closed _ ih (by simp) _ hedge
  intro hpath
  exact hexp.misses target (hreach target hpath) (by simp) rfl

/-! ## The fuel is never used up -/

theorem firstPath_congr {search₁ search₂ : String → Search}
    (hgrow : ∀ x seen, seen ⊆ (search₁ x seen).2) {start : List String}
    (hs : ∀ x seen, start ⊆ seen → search₁ x seen = search₂ x seen) :
    ∀ (xs : List String) (seen : List String), start ⊆ seen →
      firstPath search₁ xs seen = firstPath search₂ xs seen := by
  intro xs
  induction xs with
  | nil => intro seen _; rfl
  | cons x rest ih =>
      intro seen hstart
      have hx := hgrow x seen
      rw [firstPath, firstPath, ← hs x seen hstart]
      split
      · rfl
      · next seen' heq =>
          rw [heq] at hx
          exact ih seen' (List.Subset.trans hstart hx)

theorem pathTo_congr (a : Agenda α) (target : String) :
    ∀ (fuel₁ fuel₂ : Nat) (x : String) (seen : List String),
      a.unseen seen < fuel₁ → a.unseen seen < fuel₂ →
      a.pathTo target fuel₁ x seen = a.pathTo target fuel₂ x seen := by
  intro fuel₁
  induction fuel₁ with
  | zero => intro fuel₂ x seen h₁ _; omega
  | succ f ih =>
      intro fuel₂ x seen h₁ h₂
      obtain ⟨g, rfl⟩ : ∃ g, fuel₂ = g + 1 := ⟨fuel₂ - 1, by omega⟩
      obtain ⟨-, heq⟩ | ⟨-, -, heq⟩ | ⟨-, -, -, heq⟩ |
        ⟨t, -, hnew, ht, heq⟩ := a.pathTo_cases target x seen <;>
        rw [heq, heq]
      have hlt := unseen_cons_lt (mem_names.2 ⟨t, find?_eq_some.1 ht⟩) hnew
      have hsearch : ∀ y s, x :: seen ⊆ s →
          a.pathTo target f y s = a.pathTo target g y s := by
        intro y s hsub
        have := unseen_le_of_subset (a := a) hsub
        exact ih g y s (by omega) (by omega)
      rw [firstPath_congr (pathTo_subset a target f) hsearch
        t.prerequisites (x :: seen) (List.Subset.refl _)]

/-- More fuel than `pathBack` gives changes no search, on any agenda. -/
theorem pathTo_fuel_irrelevant (a : Agenda α) (source target : String)
    (extra : Nat) :
    a.pathTo target (a.size + 1 + extra) source [] =
      a.pathTo target (a.size + 1) source [] := by
  have h := unseen_le_size a []
  exact pathTo_congr a target _ _ source [] (by omega) (by omega)

/-! ## The way back from one of several names -/

theorem pathBack_simple {a : Agenda α} {name : String}
    {prerequisites path : List String}
    (h : a.pathBack name prerequisites = some path) :
    ∃ p ∈ prerequisites, a.SimplePath [] p name path := by
  obtain ⟨p, hp, hfound⟩ := List.exists_of_findSome?_eq_some h
  exact ⟨p, hp, pathTo_simple hfound⟩

theorem reflTransGen_of_simplePath {a : Agenda α} {seen : List String}
    {source target : String} {path : List String}
    (h : a.SimplePath seen source target path) :
    ReflTransGen a.Edge source target := by
  obtain ⟨hstart, hend, hlink, -, -⟩ := h
  cases path with
  | nil => cases hstart
  | cons x rest =>
      obtain rfl : x = source := by simpa using hstart
      have hlast := List.relationReflTransGen_of_exists_isChain_cons rest hlink rfl
      rw [List.getLast?_eq_some_getLast (by simp)] at hend
      exact (Option.some.inj hend) ▸ hlast

theorem pathBack_isSome_iff {a : Agenda α} {name : String}
    {prerequisites : List String} :
    (∃ path, a.pathBack name prerequisites = some path) ↔
      ∃ p ∈ prerequisites, ReflTransGen a.Edge p name := by
  constructor
  · rintro ⟨path, h⟩
    obtain ⟨p, hp, hsimple⟩ := pathBack_simple h
    exact ⟨p, hp, reflTransGen_of_simplePath hsimple⟩
  · rintro ⟨p, hp, hpath⟩
    rw [← Option.isSome_iff_exists, pathBack, List.findSome?_isSome_iff]
    refine ⟨p, hp, Option.isSome_iff_ne_none.2 fun hnone => ?_⟩
    exact pathTo_complete (Nat.lt_succ_self a.size) hnone hpath

end Agenda

end SchemaPipeline
