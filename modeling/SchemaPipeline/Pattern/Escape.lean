import SchemaPipeline.Pattern.NamedSet
import SchemaPipeline.Text.Blank

/-!
# Escapes

What a backslash and the characters after it stand for. All punctuation of ASCII can be escaped to
stand for itself, but for the angles, which have a meaning of their own; a letter that has no
meaning cannot.

In the extended form of patterns, blanks and comments may stand between any two signs.
-/

namespace SchemaPipeline.Pattern

open CharSet (Meaning)

/-- Why a text is no pattern of the plain grammar. -/
inductive Fault where
  | malformed
  /-- It asks what comes before or after a place, which is for a richer grammar. -/
  | lookAround
  /-- It names a control character by a letter; so many characters are left, from the backslash
  on. -/
  | control (left : Nat)
deriving DecidableEq, Repr

abbrev Checked (α : Type) : Type := Except Fault α

/-- How characters are to be read. -/
structure Manner where
  meaning : Meaning
  ignoresCase : Bool
  isExtended : Bool
deriving DecidableEq, Repr

/-- Drops blanks and comments. -/
def dropBlanks (inComment : Bool) : List Char → List Char
  | [] => []
  | c :: cs =>
    if inComment then dropBlanks (c != '\n') cs
    else if Text.isBlank c then dropBlanks false cs
    else if c == '#' then dropBlanks true cs
    else c :: cs

/-- Goes on to the next sign. -/
def Manner.skip (m : Manner) (cs : List Char) : List Char :=
  if m.isExtended then dropBlanks false cs else cs

/-! ## Numbers of characters -/

def hexDigit? (c : Char) : Option Nat :=
  if c.isDigit then some (c.toNat - '0'.toNat)
  else if 'a' ≤ c ∧ c ≤ 'f' then some (c.toNat - 'a'.toNat + 10)
  else if 'A' ≤ c ∧ c ≤ 'F' then some (c.toNat - 'A'.toNat + 10)
  else none

def charOf? (n : Nat) : Option Char := if n.isValidChar then some (Char.ofNat n) else none

/-- The character whose number a text writes. -/
def hexChar? (ds : List Char) : Option Char :=
  if ds.isEmpty then none
  else (ds.foldlM (fun n c => (hexDigit? c).map (n * 16 + ·)) 0).bind charOf?

/-- So many signs, and what comes after them. -/
def takeSigns (m : Manner) : Nat → List Char → Option (List Char × List Char)
  | 0, cs => some ([], cs)
  | _ + 1, [] => none
  | n + 1, c :: cs => (takeSigns m n (m.skip cs)).map fun (taken, rest) => (c :: taken, rest)

/-- The signs up to a closing brace, and what comes after it. -/
def takeBraced (m : Manner) : Nat → List Char → Option (List Char × List Char)
  | 0, _ => none
  | fuel + 1, cs =>
    match m.skip cs with
    | [] => none
    | '\x7d' :: rest => some ([], rest)
    | c :: rest => (takeBraced m fuel rest).map fun (taken, after) => (c :: taken, after)

/-- A character by its number, in so many digits or in braces. -/
def readNumbered (m : Manner) (width : Nat) (cs : List Char) : Option (Char × List Char) := do
  let (ds, rest) ←
    match m.skip cs with
    | '\x7b' :: after => takeBraced m (after.length + 1) after
    | signs => takeSigns m width signs
  let c ← hexChar? ds
  some (c, rest)

/-! ## Properties -/

/-- The set that a letter or a text in braces names, if there is one of that name. -/
def readProperty (m : Manner) (wanted : Bool) (cs : List Char) :
    Option (Option CharSet × List Char) :=
  let signed := fun set : Option CharSet =>
    set.map fun s => (s.caseless m.ignoresCase).signed wanted
  match m.skip cs with
  | [] => none
  | '\x7b' :: after =>
    (takeBraced m (after.length + 1) after).map fun (name, rest) =>
      (signed (CharSet.query? name), rest)
  | '\\' :: _ => none
  | c :: rest => some (signed (CharSet.ofName? [c]), rest)

/-! ## Escapes -/

/-- What an escape stands for. -/
inductive Escaped where
  | char (c : Char)
  /-- The character that rings; it is read, but only a set in brackets may have it. -/
  | bell
  | set (s : Option CharSet)
  /-- A place between characters. -/
  | place

/-- The names of the ends of a word. -/
def wordEnds : List String := ["start", "end", "start-half", "end-half"]

def isWordEndSign (c : Char) : Bool := c.isAlpha || c == '-'

/-- What may follow the escape of a word edge: the name of an end of words in braces. Braces that
do not start with a letter are left for a count. -/
def dropWordEnd (m : Manner) (cs : List Char) : Option (List Char) :=
  match cs with
  | '\x7b' :: after =>
    match m.skip after with
    | [] => none
    | c :: _ =>
      if isWordEndSign c then do
        let (name, rest) ← takeBraced m (after.length + 1) after
        if wordEnds.contains (String.ofList name) then some rest else none
      else some cs
  | _ => some cs

def isEscapable (c : Char) : Bool :=
  c.toNat < 0x80 && !c.isAlphanum && c != '<' && c != '>'

/-- What follows a backslash. -/
def readEscape (m : Manner) (cs : List Char) : Checked (Escaped × List Char) :=
  let orFault := fun {α : Type} (o : Option α) =>
    match o with
    | some a => Except.ok a
    | none => Except.error Fault.malformed
  match cs with
  | [] => .error .malformed
  | 'x' :: rest => (orFault (readNumbered m 2 rest)).map fun (c, r) => (.char c, r)
  | 'u' :: rest => (orFault (readNumbered m 4 rest)).map fun (c, r) => (.char c, r)
  | 'U' :: rest => (orFault (readNumbered m 8 rest)).map fun (c, r) => (.char c, r)
  | 'p' :: rest => (orFault (readProperty m true rest)).map fun (s, r) => (.set s, r)
  | 'P' :: rest => (orFault (readProperty m false rest)).map fun (s, r) => (.set s, r)
  | 'a' :: rest => .ok (.bell, rest)
  | 'f' :: rest => .ok (.char '\x0c', rest)
  | 't' :: rest => .ok (.char '\t', rest)
  | 'n' :: rest => .ok (.char '\n', rest)
  | 'r' :: rest => .ok (.char '\r', rest)
  | 'v' :: rest => .ok (.char '\x0b', rest)
  | 'b' :: rest => (orFault (dropWordEnd m rest)).map fun r => (.place, r)
  | 'c' :: letter :: _ =>
    .error (if letter.isAlpha then .control (cs.length + 1) else .malformed)
  | c :: rest =>
    match CharSet.ofLetter? m.meaning m.ignoresCase c with
    | some set => .ok (.set (some set), rest)
    | none =>
      if ['A', 'z', 'B', '<', '>'].contains c then .ok (.place, rest)
      else if isEscapable c then .ok (.char c, rest)
      else .error .malformed

end SchemaPipeline.Pattern
