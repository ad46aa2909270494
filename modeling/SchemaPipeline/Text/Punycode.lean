/-!
# Punycode

The spelling of a label outside ASCII by ASCII letters and digits. The basic characters come first,
then the others as differences, each a number in a mixed radix whose digit thresholds adapt to what
has been written.
-/

namespace SchemaPipeline.Punycode

def base : Nat := 36

def threshold (k bias : Nat) : Nat :=
  if k ≤ bias then 1 else if bias + 26 ≤ k then 26 else k - bias

def adaptSteps : Nat → Nat → Nat → Nat
  | 0, delta, k => k + 36 * delta / (delta + 38)
  | fuel + 1, delta, k =>
    if 455 < delta then adaptSteps fuel (delta / 35) (k + base)
    else k + 36 * delta / (delta + 38)

/-- The bias after a difference, from the difference and the number of characters so far. -/
def adapt (delta count : Nat) (first : Bool) : Nat :=
  let delta := if first then delta / 700 else delta / 2
  adaptSteps (delta + 1) (delta + delta / count) 0

def digit (d : Nat) : Char :=
  if d < 26 then Char.ofNat (0x61 + d) else Char.ofNat (0x30 + d - 26)

def digitValue? (c : Char) : Option Nat :=
  let n := c.toNat
  if 0x61 ≤ n ∧ n ≤ 0x7a then some (n - 0x61)
  else if 0x41 ≤ n ∧ n ≤ 0x5a then some (n - 0x41)
  else if 0x30 ≤ n ∧ n ≤ 0x39 then some (n - 0x30 + 26)
  else none

/-! ## Encoding -/

/-- The digits of a difference; every step at least halves it in the long run, so as many steps as
the difference are enough. -/
def encodeDelta (bias : Nat) : Nat → Nat → Nat → List Char
  | 0, q, _ => [digit q]
  | fuel + 1, q, k =>
    let t := threshold k bias
    if q < t then [digit q]
    else digit (t + (q - t) % (base - t)) :: encodeDelta bias fuel ((q - t) / (base - t)) (k + base)

structure Progress where
  delta : Nat
  bias : Nat
  handled : Nat
  first : Bool
  out : List Char

/-- Goes over the whole label for one character value. -/
def encodePass (n : Nat) : List Nat → Progress → Progress
  | [], p => p
  | c :: rest, p =>
    if c < n then encodePass n rest { p with delta := p.delta + 1 }
    else if c = n then
      encodePass n rest
        { delta := 0, bias := adapt p.delta (p.handled + 1) p.first, handled := p.handled + 1,
          first := false, out := p.out ++ encodeDelta p.bias (p.delta + 1) p.delta base }
    else encodePass n rest p

def encodeFrom (label : List Nat) : Nat → Nat → Progress → List Char
  | 0, _, p => p.out
  | fuel + 1, n, p =>
    match (label.filter (n ≤ ·)).min? with
    | none => p.out
    | some m =>
      let p := { p with delta := p.delta + (m - n) * (p.handled + 1) }
      let p := encodePass m label p
      encodeFrom label fuel (m + 1) { p with delta := p.delta + 1 }

def encode (label : List Char) : List Char :=
  let basic := label.filter (·.toNat < 0x80)
  let codes := label.map Char.toNat
  let start := if basic.isEmpty then [] else basic ++ ['-']
  encodeFrom codes (codes.length + 1) 0x80 ⟨0, 72, basic.length, true, start⟩

/-! ## Decoding -/

/-- One difference: the position it leads to, and the digits left. -/
def decodeDelta (bias : Nat) : List Char → Nat → Nat → Nat → Option (Nat × List Char)
  | [], _, _, _ => none
  | c :: rest, i, w, k =>
    match digitValue? c with
    | none => none
    | some d =>
      let i := i + d * w
      let t := threshold k bias
      if d < t then some (i, rest) else decodeDelta bias rest i (w * (base - t)) (k + base)

def decodeFrom : Nat → List Char → Nat → Nat → Nat → Bool → List Char → Option (List Char)
  | 0, _, _, _, _, _, _ => none
  | fuel + 1, digits, n, i, bias, first, out =>
    if digits.isEmpty then some out
    else
      match decodeDelta bias digits i 1 base with
      | none => none
      | some (j, rest) =>
        let count := out.length + 1
        let n := n + j / count
        let at' := j % count
        if 0x10ffff < n ∨ (0xd800 ≤ n ∧ n ≤ 0xdfff) then none
        else
          decodeFrom fuel rest n (at' + 1) (adapt (j - i) count first) false
            (out.take at' ++ Char.ofNat n :: out.drop at')

def decode? (cs : List Char) : Option (List Char) :=
  let reversed := cs.reverse
  let digits := (reversed.takeWhile (· != '-')).reverse
  let basic := (reversed.dropWhile (· != '-')).drop 1 |>.reverse
  if basic.any (0x80 ≤ ·.toNat) then none
  else decodeFrom (digits.length + 1) digits 0x80 0 72 true basic

end SchemaPipeline.Punycode
