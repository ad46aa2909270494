import SchemaPipeline.Text.Utf8

/-!
# Percent encoding

A byte may be written as `%` and two hexadecimal digits of either case. `decode` replaces every
such triple by its byte and keeps everything else, a `%` without two digits included. `encode`
writes the triples with upper-case digits for the bytes that a set asks for.
-/

namespace SchemaPipeline.Percent

open Utf8 (Bytes)

def sign : UInt8 := 0x25

def hexDigit? (b : UInt8) : Option UInt8 :=
  if 0x30 ≤ b ∧ b ≤ 0x39 then some (b - 0x30)
  else if 0x61 ≤ b ∧ b ≤ 0x66 then some (b - 0x61 + 10)
  else if 0x41 ≤ b ∧ b ≤ 0x46 then some (b - 0x41 + 10)
  else none

/-- The byte that two digits denote. -/
def pair? (h l : UInt8) : Option UInt8 :=
  match hexDigit? h, hexDigit? l with
  | some h, some l => some (h * 16 + l)
  | _, _ => none

def decode : Bytes → Bytes
  | [] => []
  | [b] => [b]
  | [b, c] => [b, c]
  | b :: h :: l :: rest =>
    if b = sign then
      match pair? h l with
      | some x => x :: decode rest
      | none => b :: decode (h :: l :: rest)
    else b :: decode (h :: l :: rest)

/-- The text of a percent-encoded text, a replacement character for each ill-formed sequence of
the decoded bytes. -/
def decodeText (cs : List Char) : List Char :=
  Utf8.decodeLossy (decode (Utf8.encode cs))

def upperDigit (n : Nat) : Char := (Nat.digitChar n).toUpper

def triple (b : UInt8) : List Char :=
  ['%', upperDigit (b.toNat / 16), upperDigit (b.toNat % 16)]

/-- A character, or the triples of its bytes if it is not ASCII or belongs to the set. -/
def encodeChar (reserved : Char → Bool) (c : Char) : List Char :=
  if 0x80 ≤ c.toNat || reserved c then (String.utf8EncodeChar c).flatMap triple else [c]

def encode (reserved : Char → Bool) (cs : List Char) : List Char :=
  cs.flatMap (encodeChar reserved)

end SchemaPipeline.Percent
