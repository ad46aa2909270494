import SchemaPipeline.Json.Value

/-!
# Reading JSON text

A recursive reader over characters. Nesting is bounded, and the bound is what the recursion runs
on: `readValue d` reads values with at most `d` arrays and objects around a scalar. Within one
container the loop over its entries is bounded by the characters left.

A repeated key keeps its first place and takes its last value. An integer literal that fits 64
bits, signed or not, stays an integer; every other number becomes a binary64 number, `-0` included.
The reader takes as many leading digits as fit 64 bits, rounds them once and scales them by one
rounded power of ten, so a long literal may come out beside its nearest number; a literal beyond
the largest number is refused.
-/

namespace SchemaPipeline.Json

/-! ## Numbers -/

/-- The scale of the power of ten that one step may use. -/
def greatestPower : Nat := 308

def powerOfTen (k : Nat) : Option Binary64 := Binary64.ofNat false (Nat.pow 10 k)

/-- A rounded number scaled by a power of ten: down in steps of at most `greatestPower`, up in one
step or not at all. -/
def scaleByPower : Nat → Binary64 → Int → Option Binary64
  | 0, _, _ => none
  | fuel + 1, x, e =>
    if e.natAbs ≤ greatestPower then do
      let p ← powerOfTen e.natAbs
      if 0 ≤ e then x.mul p else x.div p
    else if x.isZero then some x
    else if 0 ≤ e then none
    else do
      let p ← powerOfTen greatestPower
      let y ← x.div p
      scaleByPower fuel y (e + greatestPower)

/-- The number `significand · 10^e` with its sign. Three steps down take every number to zero, so
eight are plenty. -/
def floatOfParts (negative : Bool) (significand : Nat) (e : Int) : Option Value := do
  let x ← Binary64.ofNat false significand
  let y ← scaleByPower 8 x e
  some (.number (.float { y with negative := negative }))

def digitValue (c : Char) : Nat := c.toNat - '0'.toNat

def takeDigits (cs : List Char) : List Char × List Char :=
  (cs.takeWhile Char.isDigit, cs.dropWhile Char.isDigit)

/-- Appends digits to a significand while it fits 64 bits. Answers the significand, how many digits
were taken and how many were left over. -/
def appendDigits : Nat → List Char → Nat × Nat × Nat
  | s, [] => (s, 0, 0)
  | s, c :: rest =>
    let t := s * 10 + digitValue c
    if t < Nat.pow 2 64 then
      let (s, taken, left) := appendDigits t rest
      (s, taken + 1, left)
    else (s, 0, rest.length + 1)

/-- The greatest exponent that is read digit by digit. -/
def greatestExponentLiteral : Nat := Nat.pow 2 31 - 1

/-- The digits of an exponent as a natural, if it does not exceed the greatest one. -/
def exponentValue (ds : List Char) : Option Nat :=
  let n := ds.foldl (fun n c => n * 10 + digitValue c) 0
  if n ≤ greatestExponentLiteral then some n else none

def clampExponent (e : Int) : Int :=
  max (-2147483648) (min e 2147483647)

/-- The number after an `e`: an optional sign and at least one digit. -/
def readExponent (negative : Bool) (significand : Nat) (start : Int) (cs : List Char) :
    Option (Value × List Char) :=
  let (down, cs) :=
    match cs with
    | '+' :: rest => (false, rest)
    | '-' :: rest => (true, rest)
    | _ => (false, cs)
  let (ds, rest) := takeDigits cs
  if ds.isEmpty then none
  else
    match exponentValue ds with
    | some n => do
      let v ← floatOfParts negative significand
        (clampExponent (if down then start - n else start + n))
      some (v, rest)
    | none =>
      if significand ≠ 0 ∧ !down then none
      else some (.number (.float (Binary64.zero negative)), rest)

/-- What follows the significand: an exponent or nothing. -/
def readScaled (negative : Bool) (significand : Nat) (e : Int) (cs : List Char) :
    Option (Value × List Char) :=
  match cs with
  | 'e' :: rest => readExponent negative significand e rest
  | 'E' :: rest => readExponent negative significand e rest
  | _ => do
    let v ← floatOfParts negative significand e
    some (v, cs)

/-- The number after a decimal point, with `e` as the exponent of the digits before it. -/
def readFraction (negative : Bool) (significand : Nat) (e : Int) (cs : List Char) :
    Option (Value × List Char) :=
  let (ds, rest) := takeDigits cs
  let (s, taken, _) := appendDigits significand ds
  if ds.isEmpty then none
  else readScaled negative s (e - taken) rest

/-- A number without fraction and exponent, all of whose digits fit 64 bits. -/
def integerValue (negative : Bool) (n : Nat) : Option Value :=
  if !negative then some (.number (.int n))
  else if n ≠ 0 ∧ n ≤ Nat.pow 2 63 then some (.number (.int (-(n : Int))))
  else do
    let x ← Binary64.ofNat true n
    some (.number (.float x))

/-- What follows the digits of the integral part. -/
def readAfterInteger (negative : Bool) (ds : List Char) (cs : List Char) :
    Option (Value × List Char) :=
  let (s, _, left) := appendDigits 0 ds
  match cs with
  | '.' :: rest => readFraction negative s left rest
  | 'e' :: rest => readExponent negative s left rest
  | 'E' :: rest => readExponent negative s left rest
  | _ =>
    if left = 0 then do
      let v ← integerValue negative s
      some (v, cs)
    else do
      let v ← floatOfParts negative s left
      some (v, cs)

/-- A number without its sign: one zero, or digits that do not start with a zero. -/
def readMagnitude (negative : Bool) (cs : List Char) : Option (Value × List Char) :=
  match takeDigits cs with
  | ([], _) => none
  | ('0' :: _ :: _, _) => none
  | (ds, rest) => readAfterInteger negative ds rest

/-! ## Strings -/

def hexValue (c : Char) : Option Nat :=
  if '0' ≤ c ∧ c ≤ '9' then some (c.toNat - '0'.toNat)
  else if 'a' ≤ c ∧ c ≤ 'f' then some (c.toNat - 'a'.toNat + 10)
  else if 'A' ≤ c ∧ c ≤ 'F' then some (c.toNat - 'A'.toNat + 10)
  else none

def hexUnit (a b c d : Char) : Option Nat := do
  let a ← hexValue a
  let b ← hexValue b
  let c ← hexValue c
  let d ← hexValue d
  some (((a * 16 + b) * 16 + c) * 16 + d)

def simpleEscape : Char → Option Char
  | '"' => some '"'
  | '\\' => some '\\'
  | '/' => some '/'
  | 'b' => some '\x08'
  | 'f' => some '\x0c'
  | 'n' => some '\n'
  | 'r' => some '\r'
  | 't' => some '\t'
  | _ => none

/-- The characters of a string up to its closing quote. A code unit above `d7ff` must be the first
half of a pair that follows at once, or lie above the surrogates. -/
def readChars : List Char → Option (List Char × List Char)
  | '"' :: rest => some ([], rest)
  | '\\' :: 'u' :: a :: b :: c :: d :: rest =>
    match hexUnit a b c d with
    | none => none
    | some u =>
      if u < 0xd800 ∨ 0xdfff < u then do
        let (cs, rest) ← readChars rest
        some (Char.ofNat u :: cs, rest)
      else if 0xdbff < u then none
      else
        match rest with
        | '\\' :: 'u' :: a :: b :: c :: d :: rest =>
          match hexUnit a b c d with
          | none => none
          | some l =>
            if l < 0xdc00 ∨ 0xdfff < l then none
            else do
              let (cs, rest) ← readChars rest
              some (Char.ofNat (0x10000 + (u - 0xd800) * 0x400 + (l - 0xdc00)) :: cs, rest)
        | _ => none
  | '\\' :: e :: rest =>
    match simpleEscape e with
    | none => none
    | some c => do
      let (cs, rest) ← readChars rest
      some (c :: cs, rest)
  | c :: rest =>
    if c.toNat < 0x20 ∨ c = '\\' then none
    else do
      let (cs, rest) ← readChars rest
      some (c :: cs, rest)
  | [] => none

/-! ## Values -/

def isBlank (c : Char) : Bool :=
  c == ' ' || c == '\n' || c == '\t' || c == '\r'

def skipBlank (cs : List Char) : List Char := cs.dropWhile isBlank

/-- The text after a keyword, if it starts with the keyword. -/
def stripWord : List Char → List Char → Option (List Char)
  | [], cs => some cs
  | w :: ws, c :: cs => if w = c then stripWord ws cs else none
  | _ :: _, [] => none

abbrev Reader (α : Type) : Type := List Char → Option (α × List Char)

/-- The entries of an array up to its bracket, at least one. -/
def readEntries {α : Type} (entry : Reader α) : Nat → Reader (List α)
  | 0, _ => none
  | fuel + 1, cs => do
    let (v, rest) ← entry cs
    match skipBlank rest with
    | ']' :: rest => some ([v], rest)
    | ',' :: rest => do
      let (vs, rest) ← readEntries entry fuel (skipBlank rest)
      some (v :: vs, rest)
    | _ => none

/-- The members of an object up to its brace, at least one. How a member is read may depend on its
key. -/
def readMembers {κ α : Type} (readKey : Reader κ) (entry : κ → Reader α) :
    Nat → Reader (List (κ × α))
  | 0, _ => none
  | fuel + 1, cs =>
    match cs with
    | '"' :: rest => do
      let (key, rest) ← readKey rest
      match skipBlank rest with
      | ':' :: rest => do
        let (v, rest) ← entry key (skipBlank rest)
        match skipBlank rest with
        | '\x7d' :: rest => some ([(key, v)], rest)
        | ',' :: rest => do
          let (ms, rest) ← readMembers readKey entry fuel (skipBlank rest)
          some ((key, v) :: ms, rest)
        | _ => none
      | _ => none
    | _ => none

/-- The entries after the bracket that opens an array. -/
def readArray {α : Type} (entry : Reader α) : Reader (List α) := fun cs =>
  match skipBlank cs with
  | ']' :: rest => some ([], rest)
  | cs => readEntries entry cs.length cs

/-- The members after the brace that opens an object. -/
def readObject {κ α : Type} (readKey : Reader κ) (entry : κ → Reader α) : Reader (List (κ × α)) :=
  fun cs =>
    match skipBlank cs with
    | '\x7d' :: rest => some ([], rest)
    | cs => readMembers readKey entry cs.length cs

/-- A string after its opening quote. -/
def readString : Reader String := fun cs =>
  (readChars cs).map fun (s, rest) => (String.ofList s, rest)

/-- A scalar. -/
def readScalar (cs : List Char) : Option (Value × List Char) :=
  match cs with
  | '"' :: rest => (readString rest).map fun (s, rest) => (.string s, rest)
  | '-' :: rest => readMagnitude true rest
  | 'n' :: rest => (stripWord ['u', 'l', 'l'] rest).map (Value.null, ·)
  | 't' :: rest => (stripWord ['r', 'u', 'e'] rest).map (Value.bool true, ·)
  | 'f' :: rest => (stripWord ['a', 'l', 's', 'e'] rest).map (Value.bool false, ·)
  | _ => readMagnitude false cs

/-- A value with at most the given number of containers around a scalar, from its first
character. -/
def readValue : Nat → Reader Value
  | depth, '[' :: rest =>
    match depth with
    | 0 => none
    | depth + 1 => (readArray (readValue depth) rest).map fun (vs, rest) => (.array vs, rest)
  | depth, '\x7b' :: rest =>
    match depth with
    | 0 => none
    | depth + 1 =>
      (readObject readString (fun _ => readValue depth) rest).map fun (ms, rest) =>
        (.object (Members.ofPairs ms), rest)
  | _, cs => readScalar cs

/-- The deepest nesting that is read. -/
def depthLimit : Nat := 127

/-- What a whole text denotes, blanks around it aside. -/
def readWhole {α : Type} (reader : Reader α) (cs : List Char) : Option α := do
  let (a, rest) ← reader (skipBlank cs)
  if (skipBlank rest).isEmpty then some a else none

def parseChars (cs : List Char) : Option Value := readWhole (readValue depthLimit) cs

/-- The value that a whole text denotes. -/
def parse (text : String) : Option Value := parseChars text.toList

end SchemaPipeline.Json
