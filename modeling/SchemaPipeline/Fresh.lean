/-!
# Lists without repetition

Names and questions are gathered in the order in which they come up, each of them once.
-/

namespace SchemaPipeline

variable {α : Type} [BEq α]

/-- A list with one more element at its end, unless the list has it already. -/
def addNew (xs : List α) (x : α) : List α := if xs.contains x then xs else xs ++ [x]

theorem addNew_ne_nil (xs : List α) (x : α) : addNew xs x ≠ [] := by
  rw [addNew]
  split
  · next h =>
      rintro rfl
      cases h
  · exact List.append_ne_nil_of_right_ne_nil xs nofun

variable [LawfulBEq α] {xs : List α} {x y : α}

theorem mem_addNew : y ∈ addNew xs x ↔ y ∈ xs ∨ y = x := by
  rw [addNew]
  split
  · next h =>
      have hmem : x ∈ xs := List.contains_iff_mem.1 h
      constructor
      · exact .inl
      · rintro (hy | rfl)
        · exact hy
        · exact hmem
  · rw [List.mem_append, List.mem_singleton]

theorem nodup_addNew (x : α) (h : xs.Nodup) : (addNew xs x).Nodup := by
  rw [addNew]
  split
  · exact h
  · next hnew =>
      rw [List.nodup_append]
      refine ⟨h, List.pairwise_singleton _ _, fun y hy z hz => ?_⟩
      rw [List.mem_singleton.1 hz]
      rintro rfl
      exact hnew (List.contains_iff_mem.2 hy)

end SchemaPipeline
