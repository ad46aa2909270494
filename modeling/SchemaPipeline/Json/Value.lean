import SchemaPipeline.Json.Shortest

/-!
# JSON values

An object is the list of its members in document order. The order is part of the value: it decides
in which order nodes are visited and keywords are checked, and it is kept when a value is written.
What comes out of the reader, and every operation here, keeps the keys of an object distinct;
`Value.Proper` says so for the whole tree.

A number is an integer of 64 bits, signed or not, or a binary64 number, and the two kinds are told
apart: `1` and `1.0` are different values, though they are numerically equal.
-/

namespace SchemaPipeline

inductive Number where
  | int (i : Int)
  | float (x : Binary64)
deriving DecidableEq, Repr, Inhabited

inductive Value where
  | null
  | bool (b : Bool)
  | number (n : Number)
  | string (s : String)
  | array (items : List Value)
  | object (members : List (String × Value))
deriving Repr, Inhabited

abbrev Members := List (String × Value)

/-! ## Numbers -/

namespace Number

def fraction : Number → Int × Nat
  | .int i => (i, 1)
  | .float x => x.fraction

/-- The order as numbers, across both kinds. -/
def compare (x y : Number) : Ordering :=
  compareFractions x.fraction y.fraction

/-- Equality within a kind: integers with integers, floats with floats. -/
def same : Number → Number → Bool
  | .int i, .int j => i == j
  | .float x, .float y => x.numericEq y
  | _, _ => false

def isIntegral : Number → Bool
  | .int _ => true
  | .float x => x.isIntegral

/-- The nearest binary64 number, where the range admits it. -/
def toBinary64? : Number → Option Binary64
  | .int i => Binary64.ofNat (i < 0) i.natAbs
  | .float x => some x

end Number

/-! ## Members of an object -/

namespace Members

def find? : Members → String → Option Value
  | [], _ => none
  | (k, v) :: rest, key => if k == key then some v else find? rest key

def contains (ms : Members) (key : String) : Bool :=
  (find? ms key).isSome

/-- Replaces the value of a key where it stands, or adds the member at the end. -/
def insert : Members → String → Value → Members
  | [], key, value => [(key, value)]
  | (k, v) :: rest, key, value =>
    if k == key then (k, value) :: rest else (k, v) :: insert rest key value

def erase (ms : Members) (key : String) : Members :=
  ms.filter fun m => m.1 != key

def keys (ms : Members) : List String :=
  ms.map Prod.fst

/-- The members of a list of pairs: a repeated key keeps its first place and its last value. -/
def ofPairs (ps : List (String × Value)) : Members :=
  ps.foldl (fun ms p => insert ms p.1 p.2) []

end Members

/-! ## Equality -/

mutual

/-- The same value, numbers within a kind by magnitude, the members of an object in any order. -/
def Value.same : Value → Value → Bool
  | .null, .null => true
  | .bool a, .bool b => a == b
  | .number a, .number b => a.same b
  | .string a, .string b => a == b
  | .array as, .array bs => sameItems as bs
  | .object as, .object bs => as.length == bs.length && sameMembers as bs
  | _, _ => false

def sameItems : List Value → List Value → Bool
  | [], [] => true
  | a :: as, b :: bs => a.same b && sameItems as bs
  | _, _ => false

def sameMembers : List (String × Value) → Members → Bool
  | [], _ => true
  | (k, a) :: as, bs =>
    (match Members.find? bs k with
     | some b => a.same b
     | none => false) && sameMembers as bs

end

mutual

def Value.decideEq : (v w : Value) → Decidable (v = w)
  | .null, .null => isTrue rfl
  | .bool a, .bool b => decidable_of_iff (a = b) (by simp)
  | .number a, .number b => decidable_of_iff (a = b) (by simp)
  | .string a, .string b => decidable_of_iff (a = b) (by simp)
  | .array as, .array bs => @decidable_of_iff _ (as = bs) (by simp) (decideEqItems as bs)
  | .object as, .object bs => @decidable_of_iff _ (as = bs) (by simp) (decideEqMembers as bs)
  | .null, .bool _ | .null, .number _ | .null, .string _ | .null, .array _ | .null, .object _
  | .bool _, .null | .bool _, .number _ | .bool _, .string _ | .bool _, .array _
  | .bool _, .object _ | .number _, .null | .number _, .bool _ | .number _, .string _
  | .number _, .array _ | .number _, .object _ | .string _, .null | .string _, .bool _
  | .string _, .number _ | .string _, .array _ | .string _, .object _ | .array _, .null
  | .array _, .bool _ | .array _, .number _ | .array _, .string _ | .array _, .object _
  | .object _, .null | .object _, .bool _ | .object _, .number _ | .object _, .string _
  | .object _, .array _ => isFalse (by simp)

def decideEqItems : (as bs : List Value) → Decidable (as = bs)
  | [], [] => isTrue rfl
  | [], _ :: _ => isFalse (by simp)
  | _ :: _, [] => isFalse (by simp)
  | a :: as, b :: bs =>
    have := a.decideEq b
    have := decideEqItems as bs
    decidable_of_iff (a = b ∧ as = bs) (by simp)

def decideEqMembers : (as bs : List (String × Value)) → Decidable (as = bs)
  | [], [] => isTrue rfl
  | [], _ :: _ => isFalse (by simp)
  | _ :: _, [] => isFalse (by simp)
  | (k, a) :: as, (l, b) :: bs =>
    have := a.decideEq b
    have := decideEqMembers as bs
    decidable_of_iff ((k = l ∧ a = b) ∧ as = bs) (by simp)

end

instance : DecidableEq Value := Value.decideEq

/-! ## Views -/

namespace Value

def get? : Value → String → Option Value
  | .object ms, key => Members.find? ms key
  | _, _ => none

def string? : Value → Option String
  | .string s => some s
  | _ => none

def members? : Value → Option Members
  | .object ms => some ms
  | _ => none

def items? : Value → Option (List Value)
  | .array xs => some xs
  | _ => none

def isObject : Value → Bool
  | .object _ => true
  | _ => false

def isArray : Value → Bool
  | .array _ => true
  | _ => false

/-- The name of the kind of a value. -/
def kind : Value → String
  | .null => "null"
  | .bool _ => "boolean"
  | .number _ => "number"
  | .string _ => "string"
  | .array _ => "array"
  | .object _ => "object"

def ofInt (i : Int) : Value := .number (.int i)

def ofNat (n : Nat) : Value := .number (.int n)

def ofStrings (ss : List String) : Value := .array (ss.map .string)

def ofOption (f : α → Value) : Option α → Value
  | some a => f a
  | none => .null

end Value

/-! ## Distinct keys throughout -/

mutual

/-- No object of the tree has two members of one key. -/
def Value.Proper : Value → Prop
  | .array xs => properItems xs
  | .object ms => (ms.map Prod.fst).Nodup ∧ properMembers ms
  | _ => True

def properItems : List Value → Prop
  | [] => True
  | v :: rest => v.Proper ∧ properItems rest

def properMembers : List (String × Value) → Prop
  | [] => True
  | (_, v) :: rest => v.Proper ∧ properMembers rest

end

/-! ## Measures -/

mutual

/-- The number of nodes of a value. -/
def Value.size : Value → Nat
  | .array xs => 1 + sizeItems xs
  | .object ms => 1 + sizeMembers ms
  | _ => 1

def sizeItems : List Value → Nat
  | [] => 0
  | v :: rest => v.size + sizeItems rest

def sizeMembers : List (String × Value) → Nat
  | [] => 0
  | (_, v) :: rest => v.size + sizeMembers rest

end

/-! ## Lemmas -/

namespace Members

@[simp] theorem find?_nil (key : String) : find? [] key = none := rfl

theorem mem_of_find? {ms : Members} {key : String} {v : Value}
    (h : find? ms key = some v) : (key, v) ∈ ms := by
  induction ms with
  | nil => cases h
  | cons m rest ih =>
      obtain ⟨k, w⟩ := m
      rw [find?] at h
      split at h
      · next hk =>
          cases h
          rw [eq_of_beq hk]
          exact List.mem_cons_self
      · exact List.mem_cons_of_mem _ (ih h)

/-- Without repeated keys a member is found under its key. -/
theorem find?_of_mem {ms : Members} (hnodup : (keys ms).Nodup) {key : String}
    {v : Value} (h : (key, v) ∈ ms) : find? ms key = some v := by
  induction ms with
  | nil => cases h
  | cons m rest ih =>
      obtain ⟨k, w⟩ := m
      rw [keys, List.map_cons, List.nodup_cons] at hnodup
      rw [find?]
      rcases List.mem_cons.1 h with heq | h
      · cases heq
        rw [if_pos (beq_self_eq_true _)]
      · have hne : k ≠ key := by
          rintro rfl
          exact hnodup.1 (List.mem_map.2 ⟨(k, v), h, rfl⟩)
        rw [if_neg (by simpa using hne), ih hnodup.2 h]

theorem find?_insert_self (ms : Members) (key : String) (v : Value) :
    find? (insert ms key v) key = some v := by
  induction ms with
  | nil => simp [insert, find?]
  | cons m rest ih =>
      obtain ⟨k, w⟩ := m
      by_cases h : k = key <;> simp [insert, find?, h, ih]

theorem find?_insert_of_ne (ms : Members) {key other : String} (v : Value) (h : key ≠ other) :
    find? (insert ms key v) other = find? ms other := by
  induction ms with
  | nil => simp [insert, find?, h]
  | cons m rest ih =>
      obtain ⟨k, w⟩ := m
      by_cases hk : k = key
      · subst hk; simp [insert, find?, h]
      · by_cases ho : k = other <;> simp_all [insert, find?]

end Members

end SchemaPipeline
