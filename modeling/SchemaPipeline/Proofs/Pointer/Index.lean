import Mathlib.Data.List.Basic
import Mathlib.Data.List.Induction
import SchemaPipeline.Pointer

/-!
# The token of an index

A token selects an element only if it is the index in plain decimal, the way
`indexToken` writes it (`index?_eq_some_iff`). So an element has one token, and
what differs from it by a sign or a leading zero selects nothing.

The digits of a number and the number of some digits determine each other once
there is no zero in front. The induction goes along the digits from the last
one on, which is how a number falls apart into a quotient and a remainder.
-/

namespace SchemaPipeline.Pointer

/-- The value of a list of digits, as `index?` reads it. -/
def decimal (cs : List Char) : Nat :=
  cs.foldl (fun n c => n * 10 + (c.toNat - 48)) 0

theorem decimal_concat (cs : List Char) (c : Char) :
    decimal (cs ++ [c]) = 10 * decimal cs + (c.toNat - 48) := by
  rw [decimal, List.foldl_append, Nat.mul_comm]
  rfl

theorem decimal_toDigits (i : Nat) : decimal (Nat.toDigits 10 i) = i := by
  have hread : decimal (Nat.toDigits 10 i) =
      Nat.ofDigitChars 10 (Nat.toDigits 10 i) 0 := by
    rw [decimal, Nat.ofDigitChars_eq_foldl]
    simp only [Nat.mul_comm]
    rfl
  rw [hread, Nat.ofDigitChars_ten_toDigits]

/-- A digit is the one of its value. -/
theorem digitChar_of_isDigit {c : Char} (h : c.isDigit = true) :
    c.toNat - 48 < 10 ∧ Nat.digitChar (c.toNat - 48) = c := by
  have hrange : 48 ≤ c.toNat ∧ c.toNat ≤ 57 := Char.isDigit_iff_toNat.1 h
  have hlt : c.toNat - 48 < 10 := by omega
  refine ⟨hlt, Char.toNat_inj.1 ?_⟩
  rw [Nat.toNat_digitChar_of_lt_ten hlt]
  omega

/-- A positive number starts with another digit than zero. -/
theorem head?_toDigits {i : Nat} (h : 0 < i) :
    (Nat.toDigits 10 i).head? ≠ some '0' := by
  induction i using Nat.strongRecOn with
  | ind i ih =>
      rcases Nat.lt_or_ge i 10 with hlt | hge
      · rw [Nat.toDigits_of_lt_base hlt]
        simp only [List.head?_cons, Ne, Option.some.injEq, Nat.digitChar_eq_zero]
        omega
      · rw [Nat.toDigits_of_base_le (by decide) hge,
          List.head?_append_of_ne_nil _ Nat.toDigits_ne_nil]
        exact ih (i / 10) (by omega) (by omega)

/-- Digits without a zero in front are those of their value. -/
theorem toDigits_decimal {cs : List Char} (hne : cs ≠ [])
    (hzero : cs.head? ≠ some '0') (hdigits : ∀ c ∈ cs, c.isDigit = true) :
    Nat.toDigits 10 (decimal cs) = cs := by
  induction cs using List.reverseRecOn with
  | nil => exact absurd rfl hne
  | append_singleton cs c ih =>
      obtain ⟨hlt, hc⟩ := digitChar_of_isDigit (hdigits c (by simp))
      rw [decimal_concat]
      by_cases hcs : cs = []
      · subst hcs
        rw [decimal, List.foldl_nil, Nat.mul_zero, Nat.zero_add,
          Nat.toDigits_of_lt_base hlt, hc, List.nil_append]
      · rw [List.head?_append_of_ne_nil _ hcs] at hzero
        have hfront := ih hcs hzero fun d hd => hdigits d (List.mem_append_left _ hd)
        have hpos : 0 < decimal cs := by
          refine Nat.pos_of_ne_zero fun h => hzero ?_
          rw [← hfront, h, Nat.toDigits_zero]
          rfl
        rw [← Nat.toDigits_append_toDigits (by decide) hpos hlt, hfront,
          Nat.toDigits_of_lt_base hlt, hc]

/-- Without a zero in front a token is an index if it consists of digits. -/
theorem index?_of_head {token : String} (hne : token.toList ≠ [])
    (hzero : token.toList.head? ≠ some '0') :
    index? token =
      if token.toList.all Char.isDigit then some (decimal token.toList)
      else none := by
  unfold index?
  split
  · next h => exact absurd h hne
  · next h => exact absurd (by rw [h]; rfl) hzero
  · next h => exact absurd (by rw [h]; rfl) hzero
  · rfl

theorem index?_indexToken (i : Nat) : index? (indexToken i) = some i := by
  have htext : (indexToken i).toList = Nat.toDigits 10 i := String.toList_ofList
  rcases Nat.eq_zero_or_pos i with rfl | hpos
  · rfl
  · rw [index?_of_head, htext, decimal_toDigits, if_pos]
    · rw [List.all_eq_true]
      exact fun c hc => Nat.isDigit_of_mem_toDigits (by decide) (by decide) hc
    · rw [htext]
      exact Nat.toDigits_ne_nil
    · rw [htext]
      exact head?_toDigits hpos

/-- The only token of an element is its index in plain decimal. -/
theorem index?_eq_some_iff {token : String} {i : Nat} :
    index? token = some i ↔ token = indexToken i := by
  refine ⟨fun h => ?_, fun h => h ▸ index?_indexToken i⟩
  by_cases hzero : token.toList.head? = some '0'
  · obtain ⟨rest, hrest⟩ := List.head?_eq_some_iff.1 hzero
    cases rest with
    | nil =>
        simp only [index?, hrest] at h
        cases h
        rw [← String.ofList_toList (s := token), hrest]
        rfl
    | cons c rest =>
        simp [index?, hrest] at h
  · by_cases hne : token.toList = []
    · simp [index?, hne] at h
    · rw [index?_of_head hne hzero] at h
      split at h
      · next hall =>
          cases h
          rw [indexToken, toDigits_decimal hne hzero (List.all_eq_true.1 hall),
            String.ofList_toList]
      · cases h

end SchemaPipeline.Pointer
