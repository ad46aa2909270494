import SchemaPipeline.Idna.Hostname
import SchemaPipeline.Text.Blank
import SchemaPipeline.Url.Host

/-!
# Names and addresses of hosts, and mailboxes

A mailbox is a local part and a host with an at sign between them; in angles, it may have the name
of its owner in front. The local part is a row of atoms with dots between them, or any text in
quotes. The host is a name, or an address in brackets.
-/

namespace SchemaPipeline.Mailbox

/-! ## Hosts -/

def isNameLabel (cs : List Char) : Bool :=
  1 ≤ cs.length && cs.length ≤ 63 && cs.head? != some '-' && cs.getLast? != some '-' &&
    cs.all fun c => c.isAlphanum || c == '-'

/-- The name of a host in ASCII. -/
def isHostname (cs : List Char) : Bool :=
  cs.length ≤ 253 && (Text.splitOn (· == '.') cs).all isNameLabel

def octetValue (ds : List Char) : Nat := ds.foldl (fun n c => n * 10 + (c.toNat - '0'.toNat)) 0

def isOctet (cs : List Char) : Bool :=
  !cs.isEmpty && cs.length ≤ 3 && cs.all Char.isDigit && (cs.length == 1 || cs.head? != some '0') &&
    octetValue cs ≤ 255

def isIpv4 (cs : List Char) : Bool :=
  let parts := Text.splitOn (· == '.') cs
  parts.length == 4 && parts.all isOctet

def isIpv6 (cs : List Char) : Bool := (Url.ipv6Pieces? cs).isSome

/-! ## Characters -/

def isForeign (c : Char) : Bool := 0x80 ≤ c.toNat

def isAtomChar (c : Char) : Bool :=
  c.isAlphanum || isForeign c || ['!', '#', '$', '%', '&', Char.ofNat 0x27, '*', '+', '-', '/', '=',
    '?', '^', '_', Char.ofNat 0x60, '\x7b', '|', '\x7d', '~'].contains c

def isAtom (cs : List Char) : Bool := !cs.isEmpty && cs.all isAtomChar

/-- Whether a character is visible, in ASCII. -/
def isVisible (c : Char) : Bool := '!' ≤ c && c ≤ '~'

/-- Whether a character stands for itself in quotes. -/
def isQuotable (c : Char) : Bool :=
  c == ' ' || c == '\t' || isForeign c || (isVisible c && c != '"' && c != '\\')

/-- What may stand between quotes; a backslash has a visible character after it. -/
def isQuotedText : List Char → Bool
  | [] => true
  | '\\' :: c :: rest => isVisible c && isQuotedText rest
  | c :: rest => isQuotable c && isQuotedText rest

def isBracketChar (c : Char) : Bool :=
  isForeign c || (isVisible c && c != '[' && c != '\\' && c != ']')

/-! ## Parts -/

def byteSize (cs : List Char) : Nat := (cs.map Char.utf8Size).foldl Nat.add 0

/-- What stands between two characters that enclose a text; these are not the same one. -/
def enclosed? (left right : Char) (cs : List Char) : Option (List Char) :=
  match cs with
  | c :: rest =>
    if c = left && rest.getLast? == some right then some rest.dropLast else none
  | [] => none

def isLocalPart (cs : List Char) : Bool :=
  byteSize cs ≤ 64 &&
    match enclosed? '"' '"' cs with
    | some quoted => !quoted.isEmpty && isQuotedText quoted
    | none => (Text.splitOn (· == '.') cs).all isAtom

/-- Whether a text may stand in brackets as an address. -/
def isLiteral (cs : List Char) : Bool :=
  cs.all isBracketChar &&
    match cs with
    | 'I' :: 'P' :: 'v' :: '6' :: ':' :: six => isIpv6 six
    | _ => isIpv4 cs

/-- A host that is given by its address, or by a name that the rule for names admits. -/
def isDomain (isName : List Char → Bool) (cs : List Char) : Bool :=
  byteSize cs ≤ 254 &&
    match enclosed? '[' ']' cs with
    | some address => isLiteral address
    | none => (Text.splitOn (· == '.') cs).all isAtom && isName cs

/-! ## Mailboxes -/

/-- The text before and after the last blank with an angle after it. -/
def splitAngle (cs : List Char) : Option (List Char × List Char) :=
  match cs with
  | [] => none
  | c :: rest =>
    match splitAngle rest with
    | some (before, after) => some (c :: before, after)
    | none => if c = ' ' && rest.head? == some '<' then some ([], rest.drop 1) else none

/-- A mailbox without the name of its owner and the angles. -/
def bare? (cs : List Char) : Option (List Char) :=
  match splitAngle cs with
  | none => some cs
  | some (_, after) =>
    let address := Text.trimBlank after
    if address.getLast? == some '>' then some address.dropLast else none

def isMailbox (isName : List Char → Bool) (cs : List Char) : Bool :=
  match (bare? cs).bind (Text.splitLast '@') with
  | some (user, domain) => isLocalPart user && isDomain isName domain
  | none => false

end SchemaPipeline.Mailbox
