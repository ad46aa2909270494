import SchemaPipeline.Text.Percent
import SchemaPipeline.Yaml.Cursor
import SchemaPipeline.Yaml.Token

/-!
# Reading properties and directives

What can be written before a node, its tag and the name it can be referred to by, and what can be
written before a document. A tag is either its full text in angle brackets, or a handle, which
stands for the start of the text, and the rest. Percent signs introduce bytes.
-/

namespace SchemaPipeline.Yaml

/-! ## Names -/

def endsName (cs : List Char) : Bool :=
  startsBlank cs ||
    cs.head?.any fun ch => ['?', ':', ',', ']', '\x7d', '%', '@', Char.ofNat 0x60].contains ch

/-- The name after the mark of an anchor or an alias. -/
def readName (c : Cursor) : Option (String × Cursor) :=
  let name := c.rest.takeWhile isNameChar
  let after := c.advance name.length
  if name.isEmpty || !endsName after.rest then none else some (String.ofList name, after)

/-! ## Tags -/

/-- A character of the text of a tag; a full text may have brackets and commas too. -/
def isTagChar (full : Bool) (ch : Char) : Bool :=
  isNameChar ch || ";/?:@&=+$.%!~*'()".toList.contains ch || (full && [',', '[', ']'].contains ch)

/-- How many bytes a first byte announces. -/
def octetCount? (b : UInt8) : Option Nat :=
  if b < 0x80 then some 1
  else if b < 0xc0 then none
  else if b < 0xe0 then some 2
  else if b < 0xf0 then some 3
  else if b < 0xf8 then some 4
  else none

def isFollowing (b : UInt8) : Bool := 0x80 ≤ b && b < 0xc0

/-- The bytes of a text, those under percent signs decoded. These must come in groups as long as
their first bytes say; `missing` is how many the group at hand lacks. -/
def tagBytes? : Nat → List Char → Option Utf8.Bytes
  | 0, [] => some []
  | _ + 1, [] => none
  | missing, '%' :: h :: l :: rest => do
    let high ← Percent.hexDigit? (UInt8.ofNat h.toNat)
    let low ← Percent.hexDigit? (UInt8.ofNat l.toNat)
    let b := high * 16 + low
    match missing with
    | 0 => do
      let count ← octetCount? b
      (tagBytes? (count - 1) rest).map (b :: ·)
    | missing + 1 =>
      if isFollowing b then (tagBytes? missing rest).map (b :: ·) else none
  | missing, ch :: rest =>
    if missing = 0 ∧ ch ≠ '%' then (tagBytes? 0 rest).map (String.utf8EncodeChar ch ++ ·) else none

/-- A text that ends before a zero byte. -/
def untilZero (bs : Utf8.Bytes) : Utf8.Bytes := bs.takeWhile (· != 0)

/-- The text of a tag, with something before it that has been read already. -/
def readTagText (full : Bool) (before : List Char) (c : Cursor) :
    Option (Utf8.Bytes × Cursor) := do
  let text := c.rest.takeWhile (isTagChar full)
  let bytes ← tagBytes? 0 text
  some (Utf8.encode before ++ bytes, c.advance text.length)

/-- A handle: an exclamation mark, and a name with another one perhaps. -/
def readHandle (c : Cursor) : Option (List Char × Cursor) :=
  match c.rest with
  | '!' :: rest =>
    let name := rest.takeWhile isNameChar
    let after := c.advance (name.length + 1)
    if after.startsWith '!' then some ('!' :: name ++ ['!'], after.advance 1)
    else some ('!' :: name, after)
  | _ => none

def isNamedHandle (handle : List Char) : Bool :=
  handle.length ≥ 2 && handle.getLast? == some '!'

/-- The handle and the rest of a tag. A lone exclamation mark is a full text. -/
def readTagParts (c : Cursor) : Option (String × Utf8.Bytes × Cursor) :=
  match c.rest with
  | '!' :: '<' :: _ => do
    let (bytes, c) ← readTagText true [] (c.advance 2)
    if bytes.isEmpty || !c.startsWith '>' then none else some ("", untilZero bytes, c.advance 1)
  | _ => do
    let (handle, c) ← readHandle c
    if isNamedHandle handle then
      let (bytes, c) ← readTagText false [] c
      if bytes.isEmpty then none else some (String.ofList handle, untilZero bytes, c)
    else
      let (bytes, c) ← readTagText false (handle.drop 1) c
      let bytes := untilZero bytes
      if bytes.isEmpty then some ("", [0x21], c) else some ("!", bytes, c)

/-- A tag. In brackets a comma may follow it. -/
def readTag (flow : Bool) (c : Cursor) : Option (Token × Cursor) := do
  let (handle, rest, c) ← readTagParts c
  if startsBlank c.rest || (flow && c.startsWith ',') then some (.tag handle rest, c) else none

/-! ## Directives -/

/-- The longest number of a version. -/
def maxVersionDigits : Nat := 9

def readVersionNumber (c : Cursor) : Option (Nat × Cursor) :=
  let ds := c.rest.takeWhile Char.isDigit
  if ds.isEmpty || maxVersionDigits < ds.length then none
  else some (ds.foldl (fun n d => n * 10 + (d.toNat - '0'.toNat)) 0, c.advance ds.length)

def readVersion (c : Cursor) : Option (Token × Cursor) := do
  let (major, c) ← readVersionNumber c
  if !c.startsWith '.' then none
  else
    let (minor, c) ← readVersionNumber (c.advance 1)
    some (.versionDirective major minor, c)

/-- The start of a text that a handle stands for. -/
def readTagDirective (c : Cursor) : Option (Token × Cursor) := do
  let (handle, c) ← readHandle c
  if handle.length ≥ 2 && !isNamedHandle handle then none
  else if !(c.rest.head?.any isInlineBlank) then none
  else
    let (bytes, c) ← readTagText true [] (c.skipWhile isInlineBlank)
    if bytes.isEmpty || !startsBlank c.rest then none
    else some (.tagDirective (String.ofList handle) (untilZero bytes), c)

/-- A directive after its percent sign, with the rest of its line. -/
def readDirective (c : Cursor) : Option (Token × Cursor) := do
  let name := c.rest.takeWhile isNameChar
  let c := c.advance name.length
  if !startsBlank c.rest then none
  else
    let arguments := c.skipWhile isInlineBlank
    let (token, c) ←
      match String.ofList name with
      | "YAML" => readVersion arguments
      | "TAG" => readTagDirective arguments
      | _ => none
    some (token, ← c.finishLine?)

end SchemaPipeline.Yaml
