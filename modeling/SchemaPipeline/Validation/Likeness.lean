import SchemaPipeline.Json.Value

/-!
# Likeness of values

When a value is asked to be one of some others, or different from them, numbers are compared by
magnitude, whatever their kind, and everything else as it is written: two objects are alike when
they have the same keys in the same order with like values.

There are two exceptions. A number that is asked to be equal to one other number may be off by what
rounding can do to a number near one. And in a long list two values count as different when they
differ in the sign of a zero.
-/

namespace SchemaPipeline

def Number.alike (a b : Number) : Bool := a.compare b == .eq

mutual

def Value.alike : Value → Value → Bool
  | .null, .null => true
  | .bool a, .bool b => a == b
  | .number a, .number b => a.alike b
  | .string a, .string b => a == b
  | .array as, .array bs => alikeItems as bs
  | .object as, .object bs => alikeMembers as bs
  | _, _ => false

def alikeItems : List Value → List Value → Bool
  | [], [] => true
  | a :: as, b :: bs => a.alike b && alikeItems as bs
  | _, _ => false

def alikeMembers : List (String × Value) → List (String × Value) → Bool
  | [], [] => true
  | (k, a) :: as, (l, b) :: bs => k == l && a.alike b && alikeMembers as bs
  | _, _ => false

end

/-! ## One number -/

/-- Whether the difference of two numbers, rounded, is less than one part in `2 ^ 52`. What is less
than that by no more than one part in `2 ^ 106` is rounded up to it. -/
def Binary64.isNear (x y : Binary64) : Bool :=
  let (a, b) := x.fraction
  let (c, d) := y.fraction
  (a * d - c * b).natAbs * Nat.pow 2 106 < (Nat.pow 2 54 - 1) * (b * d)

/-- Whether a value is the one that is expected. -/
def Value.isConstant (v expected : Value) : Bool :=
  match v, expected with
  | .number a, .number b =>
    match a.toBinary64?, b.toBinary64? with
    | some x, some y => x.isNear y
    | _, _ => false
  | _, _ => v.alike expected

/-! ## Lists -/

mutual

/-- Whether each zero in a value is negative. -/
def Value.zeroSigns : Value → List Bool
  | .number (.int i) => if i = 0 then [false] else []
  | .number (.float x) => if x.isZero then [x.negative] else []
  | .array xs => itemZeroSigns xs
  | .object ms => memberZeroSigns ms
  | _ => []

def itemZeroSigns : List Value → List Bool
  | [] => []
  | v :: rest => v.zeroSigns ++ itemZeroSigns rest

def memberZeroSigns : List (String × Value) → List Bool
  | [] => []
  | (_, v) :: rest => v.zeroSigns ++ memberZeroSigns rest

end

def pairwiseDifferent (same : Value → Value → Bool) : List Value → Bool
  | [] => true
  | v :: rest => !rest.any (same v) && pairwiseDifferent same rest

/-- The length up to which a list is short. -/
def shortLength : Nat := 15

/-- Whether no two values of a list are alike. -/
def allDifferent (xs : List Value) : Bool :=
  if xs.length ≤ shortLength then pairwiseDifferent Value.alike xs
  else pairwiseDifferent (fun v w => v.alike w && v.zeroSigns == w.zeroSigns) xs

end SchemaPipeline
