/-!
# UTF-8

A text as bytes and back. Not every list of bytes is the encoding of a text, so decoding goes
through `scan`, which answers a character for each well-formed sequence and `none` for each
ill-formed one. An ill-formed sequence is as long as the longest start of a well-formed one that
stands there, and one byte at least. `decode?` asks that there be none; `decodeLossy` puts the
replacement character in its place.
-/

namespace SchemaPipeline.Utf8

abbrev Bytes := List UInt8

def encode (cs : List Char) : Bytes := cs.flatMap String.utf8EncodeChar

def ofString (s : String) : Bytes := encode s.toList

/-- What the first byte of a sequence announces: how many bytes follow, the payload of the byte
itself, and the least and the greatest value of the second byte. -/
structure Lead where
  following : Nat
  payload : Nat
  low : Nat
  high : Nat

def lead? (b : Nat) : Option Lead :=
  if b < 0x80 then some ⟨0, b, 0x80, 0xbf⟩
  else if b < 0xc2 then none
  else if b < 0xe0 then some ⟨1, b - 0xc0, 0x80, 0xbf⟩
  else if b = 0xe0 then some ⟨2, 0, 0xa0, 0xbf⟩
  else if b = 0xed then some ⟨2, 0xd, 0x80, 0x9f⟩
  else if b < 0xf0 then some ⟨2, b - 0xe0, 0x80, 0xbf⟩
  else if b = 0xf0 then some ⟨3, 0, 0x90, 0xbf⟩
  else if b < 0xf4 then some ⟨3, b - 0xf0, 0x80, 0xbf⟩
  else if b = 0xf4 then some ⟨3, 4, 0x80, 0x8f⟩
  else none

/-- A character under way: how many bytes it still needs, the bits so far, and the least and the
greatest value of the next byte. -/
structure Pending where
  missing : Nat
  bits : Nat
  low : Nat
  high : Nat

/-- What becomes of a byte between two characters. -/
def start (b : UInt8) : Option (Option Char) × Option Pending :=
  match lead? b.toNat with
  | none => (some none, none)
  | some l =>
    if l.following = 0 then (some (some (Char.ofNat l.payload)), none)
    else (none, some ⟨l.following, l.payload, l.low, l.high⟩)

/-- The characters of a list of bytes, `none` for each ill-formed sequence. -/
def scan : Option Pending → Bytes → List (Option Char)
  | none, [] => []
  | some _, [] => [none]
  | none, b :: rest =>
    match start b with
    | (some c, p) => c :: scan p rest
    | (none, p) => scan p rest
  | some p, b :: rest =>
    if p.low ≤ b.toNat ∧ b.toNat ≤ p.high then
      let bits := p.bits * 64 + b.toNat % 64
      if p.missing ≤ 1 then some (Char.ofNat bits) :: scan none rest
      else scan (some ⟨p.missing - 1, bits, 0x80, 0xbf⟩) rest
    else
      match start b with
      | (some c, p) => none :: c :: scan p rest
      | (none, p) => none :: scan p rest

/-- The text whose encoding the bytes are. -/
def decode? (bs : Bytes) : Option (List Char) := (scan none bs).mapM id

def replacement : Char := Char.ofNat 0xfffd

def decodeLossy (bs : Bytes) : List Char := (scan none bs).map (·.getD replacement)

end SchemaPipeline.Utf8
