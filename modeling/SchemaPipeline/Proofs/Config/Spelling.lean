import Mathlib.Data.List.DropRight
import SchemaPipeline.Config.Environment

/-!
# What a setting spells

A setting is a text, and blanks around it do not count. Drafts and flags are
words, in any mixture of upper and lower case; a count is a list of digits,
perhaps after a plus sign, that stays below `2 ^ 64`.

Each reader is pinned down by a relation that does not mention it: a text is
read as a value exactly if it spells it. So no text spells two values.
-/

namespace SchemaPipeline

namespace Text

/-! ## Blanks around a text -/

/-- A text is the other one with blanks around it, and this one neither begins
nor ends with a blank. -/
structure Trimmed (cs bare : List Char) : Prop where
  around : ∃ before after, cs = before ++ bare ++ after ∧
    (∀ c ∈ before, isBlank c = true) ∧ ∀ c ∈ after, isBlank c = true
  first : ∀ c ∈ bare.head?, isBlank c = false
  last : ∀ c ∈ bare.getLast?, isBlank c = false

theorem trimBlank_eq (cs : List Char) :
    trimBlank cs = (cs.dropWhile isBlank).rdropWhile isBlank := rfl

theorem trimmed_trimBlank (cs : List Char) : Trimmed cs (trimBlank cs) := by
  rw [trimBlank_eq]
  set rest := cs.dropWhile isBlank with hrest
  refine ⟨⟨cs.takeWhile isBlank, rest.rtakeWhile isBlank, ?_, ?_, ?_⟩, ?_, ?_⟩
  · rw [List.append_assoc, List.rdropWhile_append_rtakeWhile, hrest,
      List.takeWhile_append_dropWhile]
  · exact fun c hc => List.mem_takeWhile_imp hc
  · exact fun c hc => List.mem_rtakeWhile_imp hc
  · intro c hc
    obtain ⟨after, hafter⟩ := List.rdropWhile_prefix isBlank (l := rest)
    have hhead : rest.head? = some c := by
      rw [← hafter, List.head?_append, Option.mem_def.1 hc, Option.some_or]
    have hnot := List.head?_dropWhile_not isBlank cs
    rwa [← hrest, hhead] at hnot
  · intro c hc
    obtain ⟨hne, rfl⟩ := List.mem_getLast?_eq_getLast hc
    exact Bool.not_eq_true _ ▸ List.rdropWhile_last_not isBlank rest hne

theorem rdropWhile_append {after : List Char}
    (h : ∀ c ∈ after, isBlank c = true) (cs : List Char) :
    (cs ++ after).rdropWhile isBlank = cs.rdropWhile isBlank := by
  rw [List.rdropWhile, List.reverse_append, List.dropWhile_append_of_pos,
    List.rdropWhile]
  simpa using h

theorem trimBlank_of_trimmed {cs bare : List Char} (h : Trimmed cs bare) :
    trimBlank cs = bare := by
  obtain ⟨before, after, rfl, hbefore, hafter⟩ := h.around
  have hfront : (before ++ bare ++ after).dropWhile isBlank =
      (bare ++ after).dropWhile isBlank := by
    rw [List.append_assoc, List.dropWhile_append_of_pos hbefore]
  rw [trimBlank_eq, hfront]
  cases bare with
  | nil =>
      rw [List.nil_append, List.dropWhile_eq_nil_iff.2 hafter, List.rdropWhile_nil]
  | cons c rest =>
      rw [List.cons_append, List.dropWhile_cons_of_neg (by simp [h.first c rfl]),
        ← List.cons_append, rdropWhile_append hafter, List.rdropWhile_eq_self_iff]
      intro hne
      simp [h.last _ (List.getLast?_eq_getLast_of_ne_nil hne)]

/-- A text is a word, blanks around it and the case of ASCII letters aside. The
word is in lower case. -/
def Spelled (text word : String) : Prop :=
  ∃ bare, Trimmed text.toList bare ∧ lowerAscii bare = word.toList

theorem spelled_iff {text word : String} :
    Spelled text word ↔ foldCase text = word := by
  constructor
  · rintro ⟨bare, hbare, hlower⟩
    rw [foldCase, trimBlank_of_trimmed hbare, hlower, String.ofList_toList]
  · rintro rfl
    exact ⟨_, trimmed_trimBlank _, String.toList_ofList.symm⟩

end Text

namespace Config

open Text

/-! ## Words -/

/-- The words for a flag. -/
def flagWords : Bool → List String
  | true => ["1", "true", "yes", "on"]
  | false => ["0", "false", "no", "off"]

/-- The words for a draft, or for the choice of none. -/
def draftWords : DraftChoice → List String
  | none => ["auto"]
  | some .draft4 => ["draft4", "draft-04"]
  | some .draft6 => ["draft6", "draft-06"]
  | some .draft7 => ["draft7", "draft-07"]
  | some .draft201909 => ["draft2019-09", "draft201909"]
  | some .draft202012 => ["draft2020-12", "draft202012"]

def SpellsFlag (text : String) (b : Bool) : Prop :=
  ∃ word ∈ flagWords b, Spelled text word

def SpellsDraft (text : String) (d : DraftChoice) : Prop :=
  ∃ word ∈ draftWords d, Spelled text word

/-- A text spells one of some words if it is one of them once it is folded. -/
theorem exists_spelled_iff {text : String} {words : List String} :
    (∃ word ∈ words, Spelled text word) ↔ foldCase text ∈ words := by
  simp only [spelled_iff]
  exact ⟨fun ⟨_, hmem, heq⟩ => heq ▸ hmem, fun hmem => ⟨_, hmem, rfl⟩⟩

theorem parseFlag_eq_some_iff {text : String} {b : Bool} :
    parseFlag text = some b ↔ SpellsFlag text b := by
  rw [SpellsFlag, exists_spelled_iff, parseFlag]
  generalize foldCase text = word
  constructor
  · intro h
    split at h <;> cases h <;> decide
  · cases b <;> simp only [flagWords, List.mem_cons, List.not_mem_nil, or_false]
    all_goals
      rintro (rfl | rfl | rfl | rfl) <;> rfl

theorem parseDraft_eq_some_iff {text : String} {d : DraftChoice} :
    parseDraft text = some d ↔ SpellsDraft text d := by
  rw [SpellsDraft, exists_spelled_iff, parseDraft, DraftChoice.parse]
  generalize foldCase text = word
  constructor
  · intro h
    split at h <;> cases h <;> decide
  · rcases d with _ | _ | _ | _ | _ | _
    all_goals
      simp only [draftWords, List.mem_cons, List.not_mem_nil, or_false]
    · rintro rfl
      rfl
    all_goals
      rintro (rfl | rfl) <;> rfl

/-! ## Counts -/

/-- A text is the decimal form of a number below `2 ^ 64`, perhaps with zeros or a
plus sign in front, and blanks around it. -/
def SpellsCount (text : String) (n : Nat) : Prop :=
  ∃ bare digits, Trimmed text.toList bare ∧
    (bare = digits ∨ bare = '+' :: digits) ∧ digits ≠ [] ∧
    (∀ c ∈ digits, c.isDigit = true) ∧ Nat.ofDigitChars 10 digits 0 = n ∧
    n < Nat.pow 2 64

/-- The digits of a count. -/
def withoutPlus (cs : List Char) : List Char :=
  match cs with
  | '+' :: rest => rest
  | _ => cs

theorem withoutPlus_of_digits {digits : List Char}
    (h : ∀ c ∈ digits, c.isDigit = true) : withoutPlus digits = digits := by
  unfold withoutPlus
  split
  · next rest => exact absurd (h '+' List.mem_cons_self) (by decide)
  · rfl

theorem eq_of_withoutPlus (cs : List Char) :
    cs = withoutPlus cs ∨ cs = '+' :: withoutPlus cs := by
  unfold withoutPlus
  split
  · exact .inr rfl
  · exact .inl rfl

theorem parseCount_eq (text : String) {digits : List Char}
    (h : withoutPlus (trimBlank text.toList) = digits) :
    parseCount text =
      if digits.isEmpty || !digits.all Char.isDigit then none
      else if Nat.ofDigitChars 10 digits 0 < Nat.pow 2 64 then
        some (Nat.ofDigitChars 10 digits 0)
      else none := by
  have hvalue : digits.foldl (fun n c => n * 10 + (c.toNat - '0'.toNat)) 0 =
      Nat.ofDigitChars 10 digits 0 := by
    simp only [Nat.ofDigitChars_eq_foldl, Nat.mul_comm]
  rw [← hvalue, ← h]
  rfl

theorem some_digits_iff {digits : List Char} :
    (digits.isEmpty || !digits.all Char.isDigit) = false ↔
      digits ≠ [] ∧ ∀ c ∈ digits, c.isDigit = true := by
  rw [Bool.or_eq_false_iff, List.isEmpty_eq_false_iff, Bool.not_eq_false',
    List.all_eq_true]

theorem parseCount_eq_some_iff {text : String} {n : Nat} :
    parseCount text = some n ↔ SpellsCount text n := by
  constructor
  · intro h
    rw [parseCount_eq text rfl] at h
    split at h
    · cases h
    · next hread =>
        obtain ⟨hne, hdigits⟩ := some_digits_iff.1 (eq_false_of_ne_true hread)
        split at h
        · next hlt =>
            cases h
            exact ⟨_, _, trimmed_trimBlank _, eq_of_withoutPlus _, hne, hdigits,
              rfl, hlt⟩
        · cases h
  · rintro ⟨bare, digits, hbare, hplus, hne, hdigits, rfl, hlt⟩
    have heq : withoutPlus (trimBlank text.toList) = digits := by
      rw [trimBlank_of_trimmed hbare]
      rcases hplus with rfl | rfl
      · exact withoutPlus_of_digits hdigits
      · rfl
    have hread := some_digits_iff.2 ⟨hne, hdigits⟩
    rw [parseCount_eq text heq, if_neg (ne_true_of_eq_false hread), if_pos hlt]

end Config

end SchemaPipeline
