import SchemaPipeline.Url.Host

/-!
# URI references

The generic syntax of identifiers, under which a schema names itself and refers to others. It is
stricter than what locates a document: every character outside the grammar is an error, and the
error tells where it stands. A reference is kept in its five parts; a URI is a reference with a
scheme.
-/

namespace SchemaPipeline

structure Uri where
  scheme : Option String
  authority : Option String
  path : String
  query : Option String
  fragment : Option String
deriving DecidableEq, Repr, Inhabited

inductive UriFault where
  | invalidOctet
  | unexpectedChar
  | invalidAddress
deriving DecidableEq, Repr

/-- A fault and the number of bytes before it. -/
structure UriError where
  fault : UriFault
  index : Nat
deriving DecidableEq, Repr

namespace UriError

def message (e : UriError) : String :=
  (match e.fault with
   | .invalidOctet => "invalid percent-encoded octet at index "
   | .unexpectedChar => "unexpected character at index "
   | .invalidAddress => "invalid IPv6 address at index ") ++ toString e.index

end UriError

namespace Uri

/-! ## Text -/

def marked (mark : String) : Option String → String
  | some s => mark ++ s
  | none => ""

def text (u : Uri) : String :=
  (match u.scheme with | some s => s ++ ":" | none => "")
    ++ marked "//" u.authority ++ u.path ++ marked "?" u.query ++ marked "#" u.fragment

def withoutFragment (u : Uri) : Uri := { u with fragment := none }

/-! ## Characters -/

def isAsciiAlpha (c : Char) : Bool := c.isAlpha

def isUnreserved (c : Char) : Bool :=
  c.isAlphanum || ['-', '.', '_', '~'].contains c

def isSubDelim (c : Char) : Bool :=
  ['!', '$', '&', Char.ofNat 0x27, '(', ')', '*', '+', ',', ';', '='].contains c

def isSchemeChar (c : Char) : Bool := c.isAlphanum || ['+', '-', '.'].contains c

def isNameChar (c : Char) : Bool := isUnreserved c || isSubDelim c

def isCredentialChar (c : Char) : Bool := isNameChar c || c == ':'

def isSegmentChar (c : Char) : Bool := isNameChar c || c == '@'

def isPathChar (c : Char) : Bool := isSegmentChar c || c == ':' || c == '/'

def isTailChar (c : Char) : Bool := isPathChar c || c == '?'

/-- The last two characters of each plane and a few others are no characters to exchange. -/
def isExchanged (n : Nat) : Bool := n % 0x10000 < 0xfffe && !(0xfdd0 ≤ n && n ≤ 0xfdef)

/-- Whether a character outside of ASCII has a meaning that is not private. -/
def isForeign (c : Char) : Bool :=
  let n := c.toNat
  isExchanged n &&
    ((0xa0 ≤ n && n ≤ 0xd7ff) || (0xf900 ≤ n && n ≤ 0xffef) || (0x10000 ≤ n && n ≤ 0xdffff) ||
      (0xe1000 ≤ n && n ≤ 0xeffff))

def isPrivate (c : Char) : Bool :=
  let n := c.toNat
  isExchanged n && ((0xe000 ≤ n && n ≤ 0xf8ff) || 0xf0000 ≤ n)

/-- Which characters an identifier is written with: those of URIs, or those of other scripts
too. -/
inductive Repertoire where
  | ascii
  | international
deriving DecidableEq, Repr

/-- The characters of a class, with those of other scripts. -/
def Repertoire.widen (r : Repertoire) (allowed : Char → Bool) (c : Char) : Bool :=
  allowed c || (r == .international && isForeign c)

/-- The characters of a query, which may be private ones. -/
def Repertoire.isQueryChar (r : Repertoire) (c : Char) : Bool :=
  r.widen isTailChar c || (r == .international && isPrivate c)

/-! ## Reading -/

/-- A reader's place: how many bytes have been read, and the text to come. -/
structure Place where
  index : Nat
  rest : List Char

def unexpected {α : Type} (p : Place) : Except UriError α := .error ⟨.unexpectedChar, p.index⟩

def isHex (c : Char) : Bool := (Url.radixDigit? c).isSome

/-- The longest run of allowed characters and, where the class has them, of percent-encoded
octets. -/
def readRun (allowed : Char → Bool) : List Char → Nat → Except UriError (List Char × Place)
  | [], i => .ok ([], ⟨i, []⟩)
  | '%' :: h :: l :: rest, i =>
    if isHex h && isHex l then
      (readRun allowed rest (i + 3)).map fun (cs, p) => ('%' :: h :: l :: cs, p)
    else .error ⟨.invalidOctet, i⟩
  | '%' :: _, i => .error ⟨.invalidOctet, i⟩
  | c :: rest, i =>
    if allowed c then (readRun allowed rest (i + 1)).map fun (cs, p) => (c :: cs, p)
    else .ok ([], ⟨i, c :: rest⟩)

def readAt (allowed : Char → Bool) (p : Place) : Except UriError (List Char × Place) :=
  readRun allowed p.rest p.index

/-- The mark and the run after it, if the mark stands here. -/
def readMarked (mark : Char) (allowed : Char → Bool) (p : Place) :
    Except UriError (Option String × Place) :=
  match p.rest with
  | c :: rest =>
    if c = mark then
      (readAt allowed ⟨p.index + 1, rest⟩).map fun (cs, q) => (some (String.ofList cs), q)
    else .ok (none, p)
  | [] => .ok (none, p)

/-- The digits of a port with their colon, if a colon stands here. -/
def readPort (p : Place) : List Char × Place :=
  match p.rest with
  | ':' :: rest =>
    let ds := rest.takeWhile Char.isDigit
    (':' :: ds, ⟨p.index + 1 + ds.length, rest.drop ds.length⟩)
  | _ => ([], p)

def isAddressChar (c : Char) : Bool := isHex c || c == ':' || c == '.'

/-- The address in brackets whose bracket has just been read. -/
def readAddress (p : Place) : Except UriError (List Char × Place) := do
  let run := p.rest.takeWhile isAddressChar
  let (body, q) ←
    if !run.isEmpty then
      if (Url.ipv6Pieces? run).isSome then
        .ok (run, (⟨p.index + run.length, p.rest.drop run.length⟩ : Place))
      else .error ⟨.invalidAddress, p.index⟩
    else
      match p.rest with
      | c :: rest =>
        if c = 'v' ∨ c = 'V' then
          let version := rest.takeWhile isHex
          let after := rest.drop version.length
          match after with
          | '.' :: more =>
            let name := more.takeWhile isCredentialChar
            let q : Place := ⟨p.index + 2 + version.length + name.length, more.drop name.length⟩
            if version.isEmpty then unexpected ⟨p.index + 1, after⟩
            else if name.isEmpty then unexpected q
            else .ok (c :: (version ++ '.' :: name), q)
          | _ => unexpected ⟨p.index + 1 + version.length, after⟩
        else unexpected p
      | [] => unexpected p
  match q.rest with
  | ']' :: rest => .ok (body ++ [']'], ⟨q.index + 1, rest⟩)
  | _ => unexpected q

/-- A host and its port, where an address in brackets may stand. -/
def readHost (r : Repertoire) (p : Place) : Except UriError (List Char × Place) :=
  match p.rest with
  | '[' :: rest => do
    let (host, q) ← readAddress ⟨p.index + 1, rest⟩
    let (port, q) := readPort q
    .ok ('[' :: (host ++ port), q)
  | _ => do
    let (host, q) ← readAt (r.widen isNameChar) p
    let (port, q) := readPort q
    .ok (host ++ port, q)

/-- The index of the last colon of a text and their number. -/
def colons : List Char → Nat → Nat × Nat → Nat × Nat
  | [], _, acc => acc
  | c :: rest, i, acc => colons rest (i + 1) (if c = ':' then (i, acc.2 + 1) else acc)

/-- The index of the first character from the given one on that is no digit. -/
def firstNonDigit : List Char → Nat → Option Nat
  | [], _ => none
  | c :: rest, i => if c.isDigit then firstNonDigit rest (i + 1) else some i

/-- The authority after two slashes. -/
def readAuthority (r : Repertoire) (p : Place) : Except UriError (String × Place) := do
  let (run, q) ← readAt (r.widen isCredentialChar) p
  match q.rest with
  | '@' :: rest =>
    let (host, q) ← readHost r ⟨q.index + 1, rest⟩
    .ok (String.ofList (run ++ '@' :: host), q)
  | _ =>
    if run.isEmpty then
      match q.rest with
      | '[' :: _ => do
        let (host, q) ← readHost r q
        .ok (String.ofList host, q)
      | _ => .ok ("", q)
    else
      let (at', count) := colons run 0 (0, 0)
      if count = 0 then .ok (String.ofList run, q)
      else if count = 1 then
        match firstNonDigit (run.drop (at' + 1)) (p.index + at' + 1) with
        | some i => .error ⟨.unexpectedChar, i⟩
        | none => .ok (String.ofList run, q)
      else .error ⟨.unexpectedChar, p.index + at'⟩

/-- Query and fragment, after which nothing may follow. -/
def readTail (r : Repertoire) (scheme authority : Option String) (path : List Char) (p : Place) :
    Except UriError Uri := do
  let (query, p) ← readMarked '?' r.isQueryChar p
  let (fragment, p) ← readMarked '#' (r.widen isTailChar) p
  if p.rest.isEmpty then .ok ⟨scheme, authority, String.ofList path, query, fragment⟩
  else unexpected p

def readAfterAuthority (r : Repertoire) (scheme : Option String) (p : Place) :
    Except UriError Uri := do
  let (authority, p) ← readAuthority r p
  let (path, q) ← readAt (r.widen isPathChar) p
  match path with
  | [] => readTail r scheme (some authority) path q
  | c :: _ => if c = '/' then readTail r scheme (some authority) path q else unexpected p

/-- What follows a scheme, or the whole of a reference that starts with a slash. -/
def readHierarchy (r : Repertoire) (scheme : Option String) (p : Place) : Except UriError Uri :=
  match p.rest with
  | '/' :: '/' :: rest => readAfterAuthority r scheme ⟨p.index + 2, rest⟩
  | _ => do
    let (path, q) ← readAt (r.widen isPathChar) p
    readTail r scheme none path q

/-- A reference without a scheme, whose first segment holds no colon. -/
def readRelative (r : Repertoire) (cs : List Char) : Except UriError Uri := do
  let (first, p) ← readRun (r.widen isSegmentChar) cs 0
  match p.rest with
  | ':' :: _ => unexpected p
  | _ =>
    let (more, p) ← readAt (r.widen isPathChar) p
    readTail r none none (first ++ more) p

def parseIn (r : Repertoire) (cs : List Char) : Except UriError Uri :=
  let name := cs.takeWhile isSchemeChar
  match cs.drop name.length with
  | ':' :: rest =>
    match name with
    | c :: _ =>
      if c.isAlpha then readHierarchy r (some (String.ofList name)) ⟨name.length + 1, rest⟩
      else .error ⟨.unexpectedChar, 0⟩
    | [] => .error ⟨.unexpectedChar, 0⟩
  | rest =>
    match name, rest with
    | [], '/' :: '/' :: _ => readHierarchy r none ⟨0, cs⟩
    | _, _ => readRelative r cs

def parseChars (cs : List Char) : Except UriError Uri := parseIn .ascii cs

/-- The reference that a text denotes. -/
def parse (text : String) : Except UriError Uri := parseChars text.toList

end Uri

end SchemaPipeline
