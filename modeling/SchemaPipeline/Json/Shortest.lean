import SchemaPipeline.Json.Binary64

/-!
# The fewest digits that read back

A binary64 number is the nearest one to every real of an interval, ends included exactly when the
significand is even. `digits` looks for a decimal grid with a point in that interval, the coarsest
grid first: on a grid only the two neighbours of the value need a test, since a point further out
lies in the interval only if the neighbour between does. Of two neighbours inside, the nearer one
is taken, and the even one on a tie. Seventeen digits always suffice.

`text` then sets the digits: plainly while the decimal point falls within sixteen digits before or
five zeros after the point, with an exponent elsewhere.
-/

namespace SchemaPipeline.Binary64

/-- The ends of the interval of reals that round to a positive number, and the number itself, as
numerators over one denominator. -/
structure Interval where
  low : Nat
  value : Nat
  high : Nat
  den : Nat
  closed : Bool

def interval (x : Binary64) : Interval :=
  let m := x.significand
  let narrow := m = Nat.pow 2 52 ∧ leastExponent < x.exponent
  let low := if narrow then 4 * m - 1 else 4 * m - 2
  let high := 4 * m + 2
  if 0 ≤ x.exponent then
    let s := Nat.pow 2 x.exponent.toNat
    ⟨low * s, 4 * m * s, high * s, 4, m % 2 = 0⟩
  else
    ⟨low, 4 * m, high, 4 * Nat.pow 2 (-x.exponent).toNat, m % 2 = 0⟩

/-- Whether `n · 10^p` lies in the interval. -/
def Interval.contains (i : Interval) (n : Nat) (p : Int) : Bool :=
  let (n, d) := if 0 ≤ p then (n * Nat.pow 10 p.toNat, 1) else (n, Nat.pow 10 (-p).toNat)
  let lo := i.low * d
  let hi := i.high * d
  let v := n * i.den
  if i.closed then lo ≤ v && v ≤ hi else lo < v && v < hi

/-- The value divided by `10^p`, as a fraction. -/
def Interval.scaled (i : Interval) (p : Int) : Nat × Nat :=
  if 0 ≤ p then (i.value, i.den * Nat.pow 10 p.toNat) else (i.value * Nat.pow 10 (-p).toNat, i.den)

/-- The point of the grid of multiples of `10^p` that stands for the value, if one of the value's
two neighbours on it does. -/
def Interval.onGrid (i : Interval) (p : Int) : Option Nat :=
  let (n, d) := i.scaled p
  let below := n / d
  match i.contains below p, i.contains (below + 1) p with
  | true, true => some (divNearestEven n d)
  | true, false => some below
  | false, true => some (below + 1)
  | false, false => none

/-- The exponent of the leading decimal digit of a positive fraction. -/
def decimalExponent (num den : Nat) : Int :=
  if den ≤ num then ((Nat.toDigits 10 (num / den)).length : Int) - 1
  else
    let k := (Nat.toDigits 10 (den / num)).length
    if den ≤ num * Nat.pow 10 (k - 1) then -((k : Int) - 1) else -(k : Int)

/-- The first grid with a hit, from `n` digits on. -/
def searchGrids (i : Interval) (top : Int) : Nat → Nat → Nat × Int
  | 0, _ => (0, 0)
  | k + 1, n =>
    let p := top - (n : Int)
    match i.onGrid p with
    | some d => (d, p)
    | none => searchGrids i top k (n + 1)

/-- A natural without its trailing zeros, which move to the exponent. -/
def stripZeros : Nat → Nat → Int → Nat × Int
  | 0, d, p => (d, p)
  | k + 1, d, p => if d ≠ 0 ∧ d % 10 = 0 then stripZeros k (d / 10) (p + 1) else (d, p)

/-- The shortest decimal `d · 10^p` that reads back as a nonzero number. -/
def digits (x : Binary64) : Nat × Int :=
  let i := x.interval
  let top := decimalExponent i.value i.den
  let (d, p) := searchGrids i top 18 0
  stripZeros 20 d p

/-! ## Setting the digits -/

def zeros (n : Nat) : List Char := List.replicate n '0'

/-- The digits `ds` with `p` as the exponent of the last one. -/
def setDigits (ds : List Char) (p : Int) : List Char :=
  let point := (ds.length : Int) + p
  if 0 ≤ p ∧ point ≤ 16 then ds ++ zeros p.toNat ++ ['.', '0']
  else if 0 < point ∧ point ≤ 16 then ds.take point.toNat ++ '.' :: ds.drop point.toNat
  else if -5 < point ∧ point ≤ 0 then '0' :: '.' :: (zeros (-point).toNat ++ ds)
  else
    let e := point - 1
    let exponent := (if e < 0 then '-' else '+') :: Nat.toDigits 10 e.natAbs
    match ds with
    | [d] => d :: 'e' :: exponent
    | d :: rest => d :: '.' :: (rest ++ 'e' :: exponent)
    | [] => []

/-- The text of a number: shortest digits, and always a point or an exponent. -/
def text (x : Binary64) : String :=
  let body :=
    if x.isZero then ['0', '.', '0']
    else
      let (d, p) := x.digits
      setDigits (Nat.toDigits 10 d) p
  String.ofList (if x.negative then '-' :: body else body)

/-- The digits `ds` with `p` as the exponent of the last one, however many zeros this takes. -/
def setPlainly (ds : List Char) (p : Int) : List Char :=
  let point := (ds.length : Int) + p
  if 0 ≤ p then ds ++ zeros p.toNat
  else if 0 < point then ds.take point.toNat ++ '.' :: ds.drop point.toNat
  else '0' :: '.' :: (zeros (-point).toNat ++ ds)

/-- The text of a number without an exponent: shortest digits, and a point only before a
fraction. -/
def plainText (x : Binary64) : String :=
  let body :=
    if x.isZero then ['0']
    else
      let (d, p) := x.digits
      setPlainly (Nat.toDigits 10 d) p
  String.ofList (if x.negative then '-' :: body else body)

/-- The magnitude of the shortest decimal, as a fraction. -/
def decimal (x : Binary64) : Nat × Nat :=
  if x.isZero then (0, 1)
  else
    let (d, p) := x.digits
    if 0 ≤ p then (d * Nat.pow 10 p.toNat, 1) else (d, Nat.pow 10 (-p).toNat)

end SchemaPipeline.Binary64
