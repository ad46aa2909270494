import SchemaPipeline.Json.Value

/-!
# Plain scalars

What a plain scalar is by its look: null, a flag, a number, or else a text.
-/

namespace SchemaPipeline.Yaml.Look

def isNullWord (s : String) : Bool := ["~", "null", "Null", "NULL"].contains s

def isNull (s : String) : Bool := s.isEmpty || isNullWord s

def flag? (s : String) : Option Bool :=
  if ["true", "True", "TRUE"].contains s then some true
  else if ["false", "False", "FALSE"].contains s then some false
  else none

def radixDigit? (radix : Nat) (c : Char) : Option Nat :=
  let d :=
    if c.isDigit then some (c.toNat - '0'.toNat)
    else if 'a' ≤ c ∧ c ≤ 'f' then some (c.toNat - 'a'.toNat + 10)
    else if 'A' ≤ c ∧ c ≤ 'F' then some (c.toNat - 'A'.toNat + 10)
    else none
  d.filter (· < radix)

def natural? (radix : Nat) (cs : List Char) : Option Nat :=
  if cs.isEmpty then none
  else cs.foldlM (fun n c => (radixDigit? radix c).map (n * radix + ·)) 0

/-- Several digits of which the first is a zero are no number. -/
def isPadded (cs : List Char) : Bool :=
  match cs with
  | '0' :: rest => !rest.isEmpty && rest.all Char.isDigit
  | _ => false

/-- A natural number in plain digits, or in another base under its mark. -/
def magnitude? (cs : List Char) : Option Nat :=
  match cs with
  | '0' :: 'x' :: rest => natural? 16 rest
  | '0' :: 'o' :: rest => natural? 8 rest
  | '0' :: 'b' :: rest => natural? 2 rest
  | _ => if isPadded cs then none else natural? 10 cs

/-- The integer that a plain scalar spells. -/
def integer? (s : String) : Option Int :=
  match s.toList with
  | '-' :: rest => (magnitude? rest).map fun n => -(n : Int)
  | '+' :: rest => (magnitude? rest).map Int.ofNat
  | cs => (magnitude? cs).map Int.ofNat

inductive Real where
  | finite (x : Binary64)
  | notFinite

def unsigned (cs : List Char) : List Char :=
  match cs with
  | '+' :: rest => rest
  | '-' :: rest => rest
  | _ => cs

def isInfinity (cs : List Char) : Bool := [".inf", ".Inf", ".INF"].contains (String.ofList cs)

def isUndefined (s : String) : Bool := [".nan", ".NaN", ".NAN"].contains s

/-- A decimal as its digits without the point, and the power of ten that they are multiplied by. -/
def decimal? (cs : List Char) : Option (Nat × Int) :=
  let whole := cs.takeWhile Char.isDigit
  let rest := cs.drop whole.length
  let (fraction, rest) :=
    match rest with
    | '.' :: ds =>
      let f := ds.takeWhile Char.isDigit
      (f, ds.drop f.length)
    | _ => ([], rest)
  let exponent : Option Int :=
    match rest with
    | [] => some 0
    | e :: signed =>
      if e = 'e' ∨ e = 'E' then
        let n := natural? 10 (unsigned signed)
        if signed.head? = some '-' then n.map fun k => -(k : Int) else n.map Int.ofNat
      else none
  match whole ++ fraction, exponent with
  | [], _ => none
  | _, none => none
  | ds, some e => (natural? 10 ds).map (·, e - (fraction.length : Int))

/-- How far a decimal exponent can go before the number is surely zero or surely too large. -/
def exponentBound (digits : Nat) : Int := 400 + (digits : Int)

def scaled (negative : Bool) (digits : Nat) (e : Int) (length : Nat) : Option Binary64 :=
  if digits = 0 then some (Binary64.zero negative)
  else if exponentBound length < e then none
  else if e < -exponentBound length then some (Binary64.zero negative)
  else if 0 ≤ e then Binary64.round negative (digits * Nat.pow 10 e.toNat) 1
  else Binary64.round negative digits (Nat.pow 10 (-e).toNat)

/-- The number that a plain scalar spells, with or without a fraction. -/
def real? (s : String) : Option Real :=
  let cs := s.toList
  let body := unsigned cs
  if isInfinity body || isUndefined s then some .notFinite
  else
    match decimal? body with
    | none => none
    | some (digits, e) => (scaled (cs.head? = some '-') digits e cs.length).map .finite

end SchemaPipeline.Yaml.Look
