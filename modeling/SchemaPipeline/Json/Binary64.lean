/-!
# Finite binary64 numbers

A finite binary64 number is a sign, a significand and a power of two. The form is canonical, a
significand of 53 bits unless the exponent is already the least one, so equal fields mean equal
numbers up to the sign of zero and no operation needs more than exact arithmetic on naturals.

`round` is the only place where precision is lost: it takes a quotient of naturals to the nearest
number, a tie to the even significand, and answers nothing where the nearest number would be
infinite. The arithmetic below is `round` of the exact result.
-/

namespace SchemaPipeline

structure Binary64 where
  negative : Bool
  significand : Nat
  exponent : Int
deriving DecidableEq, Repr, Inhabited

namespace Binary64

def leastExponent : Int := -1074

def greatestExponent : Int := 971

def zero (negative : Bool) : Binary64 := ⟨negative, 0, leastExponent⟩

def neg (x : Binary64) : Binary64 := { x with negative := !x.negative }

def isZero (x : Binary64) : Bool := x.significand == 0

/-! ## Rounding -/

/-- The quotient to the nearest natural, a tie to the even one. -/
def divNearestEven (num den : Nat) : Nat :=
  let q := num / den
  let r := num % den
  if 2 * r < den then q
  else if den < 2 * r then q + 1
  else if q % 2 = 0 then q else q + 1

/-- A fraction divided by a power of two, as a fraction. -/
def scaleDown (num den : Nat) (e : Int) : Nat × Nat :=
  if 0 ≤ e then (num, den * Nat.pow 2 e.toNat) else (num * Nat.pow 2 (-e).toNat, den)

/-- The exponent at which a positive fraction has 53 bits before the point, no less than the
least one. -/
def exponentFor (num den : Nat) : Int :=
  let e := max leastExponent ((num.log2 : Int) - (den.log2 : Int) - 53)
  let (n, d) := scaleDown num den e
  if n / d < Nat.pow 2 53 then e else e + 1

/-- The number nearest to a fraction. -/
def round (negative : Bool) (num den : Nat) : Option Binary64 :=
  if num = 0 then some (zero negative)
  else
    let e := exponentFor num den
    let (n, d) := scaleDown num den e
    let m := divNearestEven n d
    let (m, e) := if m = Nat.pow 2 53 then (Nat.pow 2 52, e + 1) else (m, e)
    if greatestExponent < e then none else some ⟨negative, m, e⟩

def ofNat (negative : Bool) (n : Nat) : Option Binary64 := round negative n 1

/-- The magnitude as a fraction. -/
def magnitude (x : Binary64) : Nat × Nat :=
  if 0 ≤ x.exponent then (x.significand * Nat.pow 2 x.exponent.toNat, 1)
  else (x.significand, Nat.pow 2 (-x.exponent).toNat)

def mul (x y : Binary64) : Option Binary64 :=
  let (a, b) := x.magnitude
  let (c, d) := y.magnitude
  round (x.negative != y.negative) (a * c) (b * d)

/-- The quotient; a zero divisor has none. -/
def div (x y : Binary64) : Option Binary64 :=
  let (a, b) := x.magnitude
  let (c, d) := y.magnitude
  if c = 0 then none else round (x.negative != y.negative) (a * d) (b * c)

/-! ## Values -/

/-- The number as a fraction with a signed numerator. -/
def fraction (x : Binary64) : Int × Nat :=
  let (n, d) := x.magnitude
  (if x.negative then -(n : Int) else n, d)

def isIntegral (x : Binary64) : Bool :=
  let (n, d) := x.magnitude
  n % d == 0

/-- Equality as numbers: the two zeros are equal. -/
def numericEq (x y : Binary64) : Bool :=
  (x.isZero && y.isZero) || x == y

end Binary64

/-- The order of two fractions with positive denominators. -/
def compareFractions (x y : Int × Nat) : Ordering :=
  compare (x.1 * (y.2 : Int)) (y.1 * (x.2 : Int))

end SchemaPipeline
