/-!
# Cursors

Where the scanner of a YAML text stands. Columns carry the structure of a document, so every step
keeps count of them, and of the lines and characters passed. A text is divided into lines by any of
five breaks; three of them are all read as a newline.
-/

namespace SchemaPipeline.Yaml

structure Cursor where
  rest : List Char
  index : Nat
  line : Nat
  column : Nat

/-! ## Characters -/

def byteOrderMark : Char := Char.ofNat 0xfeff
def nextLine : Char := Char.ofNat 0x85
def lineSeparator : Char := Char.ofNat 0x2028
def paragraphSeparator : Char := Char.ofNat 0x2029

def isInlineBlank (ch : Char) : Bool := ch == ' ' || ch == '\t'

def isBreak (ch : Char) : Bool :=
  ch == '\n' || ch == '\r' || ch == nextLine || ch == lineSeparator || ch == paragraphSeparator

def separates (ch : Char) : Bool := isInlineBlank ch || isBreak ch

/-- Whether a character that separates comes first, or nothing does. -/
def startsBlank : List Char → Bool
  | [] => true
  | c :: _ => separates c

/-- Whether a break comes first, or nothing does. -/
def startsBreak : List Char → Bool
  | [] => true
  | c :: _ => isBreak c

/-- A character of a name or of a handle. -/
def isNameChar (ch : Char) : Bool := ch.isAlphanum || ch == '_' || ch == '-'

/-- Whether a character can stand in a text. -/
def isPrintable (ch : Char) : Bool :=
  let n := ch.toNat
  n == 0x09 || n == 0x0a || n == 0x0d || (0x20 ≤ n && n ≤ 0x7e) || n == 0x85 ||
    (0xa0 ≤ n && n ≤ 0xfffd) || 0x10000 ≤ n

namespace Cursor

def ofChars (cs : List Char) : Cursor := ⟨cs, 0, 0, 0⟩

/-- Passes over characters of a line. -/
def advance (n : Nat) (c : Cursor) : Cursor :=
  { c with rest := c.rest.drop n, index := c.index + n, column := c.column + n }

def skipWhile (p : Char → Bool) (c : Cursor) : Cursor := c.advance (c.rest.takeWhile p).length

/-- Passes over a break: the character that it is read as. -/
def takeBreak? (c : Cursor) : Option (Char × Cursor) :=
  match c.rest with
  | '\r' :: '\n' :: rest => some ('\n', ⟨rest, c.index + 2, c.line + 1, 0⟩)
  | ch :: rest =>
    if isBreak ch then
      let read := if ch == lineSeparator || ch == paragraphSeparator then ch else '\n'
      some (read, ⟨rest, c.index + 1, c.line + 1, 0⟩)
    else none
  | [] => none

def startsWith (ch : Char) (c : Cursor) : Bool := c.rest.head? == some ch

/-- Whether a mark comes first and stands alone. -/
def atMark (mark : Char) (c : Cursor) : Bool :=
  match c.rest with
  | ch :: rest => ch == mark && startsBlank rest
  | [] => false

def atTriple (mark : Char) (c : Cursor) : Bool :=
  c.column == 0 && c.rest.take 3 == [mark, mark, mark] && startsBlank (c.rest.drop 3)

/-- Whether a line that starts or ends a document comes first. -/
def atMarker (c : Cursor) : Bool := c.atTriple '-' || c.atTriple '.'

/-- Passes over a comment. -/
def skipComment (c : Cursor) : Cursor :=
  if c.startsWith '#' then c.skipWhile (!isBreak ·) else c

/-- Passes over the blanks and the comment that may end a line, and over its break. Anything else
on the line is an error. -/
def finishLine? (c : Cursor) : Option Cursor :=
  let c := (c.skipWhile isInlineBlank).skipComment
  match c.takeBreak? with
  | some (_, next) => some next
  | none => if c.rest.isEmpty then some c else none

end Cursor

end SchemaPipeline.Yaml
