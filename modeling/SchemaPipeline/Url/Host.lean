import SchemaPipeline.Idna.Domain
import SchemaPipeline.Url.Basic

/-!
# Hosts

The host of a URL is an address in brackets, an address of four numbers, a domain name, or, outside
the special schemes, any text free of delimiters. A host that ends in a number is an address of
four numbers or nothing. Each kind has one written form.
-/

namespace SchemaPipeline.Url

/-! ## Four numbers -/

/-- The digits and the radix that the prefix of a number selects. -/
def radixOf (cs : List Char) : Nat × List Char :=
  match cs with
  | '0' :: 'x' :: rest => (16, rest)
  | '0' :: 'X' :: rest => (16, rest)
  | '0' :: c :: rest => (8, c :: rest)
  | _ => (10, cs)

def radixDigit? (c : Char) : Option Nat :=
  if '0' ≤ c ∧ c ≤ '9' then some (c.toNat - '0'.toNat)
  else if 'a' ≤ c ∧ c ≤ 'f' then some (c.toNat - 'a'.toNat + 10)
  else if 'A' ≤ c ∧ c ≤ 'F' then some (c.toNat - 'A'.toNat + 10)
  else none

def readRadix (radix : Nat) : List Char → Nat → Option Nat
  | [], n => some n
  | c :: rest, n =>
    match radixDigit? c with
    | some d => if d < radix then readRadix radix rest (n * radix + d) else none
    | none => none

/-- One number of an address: decimal, octal after `0` or hexadecimal after `0x`. -/
def addressNumber? (cs : List Char) : Option Nat :=
  if cs.isEmpty then none
  else
    let (radix, ds) := radixOf cs
    readRadix radix ds 0

/-- Whether the last part of a domain, a trailing dot aside, is a number. -/
def endsInNumber (cs : List Char) : Bool :=
  let parts := (Text.splitOn (· == '.') cs).reverse
  let last :=
    match parts with
    | [] :: last :: _ => some last
    | [] :: [] => none
    | last :: _ => some last
    | [] => none
  match last with
  | none => false
  | some p => (!p.isEmpty && p.all Char.isDigit) || (addressNumber? p).isSome

/-- The address that up to four numbers denote; the last one fills the bytes that are left. -/
def addressValue (numbers : List Nat) : Option Nat :=
  match numbers.reverse with
  | [] => none
  | last :: before =>
    if 4 < numbers.length ∨ before.any (255 < ·) ∨ Nat.pow 256 (5 - numbers.length) ≤ last then none
    else
      let leading := before.reverse.foldl (fun h n => h * 256 + n) 0
      some (leading * Nat.pow 256 (4 - before.length) + last)

def dottedText (n : Nat) : String :=
  ".".intercalate
    ([n / 16777216 % 256, n / 65536 % 256, n / 256 % 256, n % 256].map fun b => toString b)

def parseIpv4 (cs : List Char) : Except UrlError String :=
  let parts := Text.splitOn (· == '.') cs
  let parts := if parts.getLast? = some [] then parts.dropLast else parts
  match parts.mapM addressNumber? with
  | none => .error .invalidIpv4
  | some numbers =>
    if numbers.any (Nat.pow 2 32 ≤ ·) then .error .invalidIpv4
    else
      match addressValue numbers with
      | some n => .ok (dottedText n)
      | none => .error .invalidIpv4

/-! ## Eight pieces -/

/-- A piece of up to four hexadecimal digits. -/
def hexPiece? (cs : List Char) : Option Nat :=
  if cs.isEmpty ∨ 4 < cs.length then none else readRadix 16 cs 0

/-- A byte of an embedded address: plain decimal. -/
def decimalByte? (cs : List Char) : Option Nat :=
  match cs with
  | [] => none
  | '0' :: _ :: _ => none
  | _ => (readRadix 10 cs 0).bind fun n => if n < 256 then some n else none

/-- Two pieces written as an address of four numbers. -/
def embedded? (cs : List Char) : Option (List Nat) := do
  let bytes ← (Text.splitOn (· == '.') cs).mapM decimalByte?
  match bytes with
  | [a, b, c, d] => some [a * 256 + b, c * 256 + d]
  | _ => none

/-- The pieces of one side of the gap; only at the end may an embedded address stand. -/
def pieces? : List (List Char) → Option (List Nat)
  | [] => some []
  | [p] => if p.contains '.' then embedded? p else (hexPiece? p).map ([·])
  | p :: rest => do
    let n ← hexPiece? p
    let ns ← pieces? rest
    some (n :: ns)

def sidePieces? (cs : List Char) : Option (List Nat) :=
  if cs.isEmpty then some [] else pieces? (Text.splitOn (· == ':') cs)

/-- The text before and after the first double colon. -/
def splitGap : List Char → Option (List Char × List Char)
  | ':' :: ':' :: rest => some ([], rest)
  | c :: rest => (splitGap rest).map fun (a, b) => (c :: a, b)
  | [] => none

/-- The eight pieces of an address; a gap stands for one zero piece at least. -/
def ipv6Pieces? (cs : List Char) : Option (List Nat) :=
  match splitGap cs with
  | none => do
    let ps ← sidePieces? cs
    if ps.length = 8 then some ps else none
  | some (before, after) =>
    if before.contains '.' then none
    else do
      let a ← sidePieces? before
      let b ← sidePieces? after
      if a.length + b.length ≤ 7 then
        some (a ++ List.replicate (8 - a.length - b.length) 0 ++ b)
      else none

/-- The length of the run of zeros at the head. -/
def zeroRun (ps : List Nat) : Nat := (ps.takeWhile (· == 0)).length

/-- The place and the length of the first longest run of zeros. -/
def longestRun : List Nat → Nat → Nat × Nat → Nat × Nat
  | [], _, best => best
  | p :: rest, i, best =>
    let run := zeroRun (p :: rest)
    longestRun rest (i + 1) (if best.2 < run then (i, run) else best)

def hexText (n : Nat) : String := String.ofList (Nat.toDigits 16 n)

def colonText (ps : List Nat) : String := ":".intercalate (ps.map hexText)

/-- The pieces in lower-case digits, the first longest run of two zeros or more as a gap. -/
def ipv6Text (ps : List Nat) : String :=
  let (i, run) := longestRun ps 0 (0, 0)
  if run < 2 then colonText ps
  else colonText (ps.take i) ++ "::" ++ colonText (ps.drop (i + run))

def parseIpv6 (cs : List Char) : Except UrlError String :=
  match ipv6Pieces? cs with
  | some ps => .ok ("[" ++ ipv6Text ps ++ "]")
  | none => .error .invalidIpv6

/-! ## Domain names -/

def forbiddenInHost (c : Char) : Bool :=
  c.toNat == 0 || c == '\t' || c == '\n' || c == '\r' ||
    [' ', '#', '/', ':', '<', '>', '?', '@', '[', '\\', ']', '^', '|'].contains c

def forbiddenInDomain (c : Char) : Bool :=
  c.toNat < 0x20 || c.toNat == 0x7f || c == '%' || forbiddenInHost c

/-- A domain name in ASCII; not every character that a name can be made of may be in a host. -/
def domainToAscii? (cs : List Char) : Option (List Char) :=
  (Idna.toAscii? cs).filter (!·.any forbiddenInDomain)

/-- The host of a special URL, from its written form without brackets. -/
def parseDomain (cs : List Char) : Except UrlError String :=
  match Utf8.decode? (Percent.decode (Utf8.encode cs)) with
  | none => .error .invalidDomain
  | some decoded =>
    match domainToAscii? decoded with
    | none => .error .invalidDomain
    | some [] => .error .emptyHost
    | some domain =>
      if endsInNumber domain then parseIpv4 domain else .ok (String.ofList domain)

/-! ## Hosts -/

def isControl (c : Char) : Bool := c.toNat < 0x20 || c.toNat == 0x7f

def bracketed? (cs : List Char) : Option (Except UrlError (List Char)) :=
  match cs with
  | '[' :: rest =>
    if rest.getLast? = some ']' then some (.ok rest.dropLast) else some (.error .invalidIpv6)
  | _ => none

def parseSpecialHost (cs : List Char) : Except UrlError String :=
  match bracketed? cs with
  | some inner => inner.bind parseIpv6
  | none => parseDomain cs

def parseOpaqueHost (cs : List Char) : Except UrlError String :=
  match bracketed? cs with
  | some inner => inner.bind parseIpv6
  | none =>
    if cs.any forbiddenInHost then .error .invalidDomainCharacter
    else .ok (String.ofList (Percent.encode isControl cs))

end SchemaPipeline.Url
