import SchemaPipeline.Idna.Direction
import SchemaPipeline.Idna.Mapping
import SchemaPipeline.Text.Pieces
import SchemaPipeline.Text.Punycode
import SchemaPipeline.Unicode.Category
import SchemaPipeline.Unicode.Joining

/-!
# Domain names

The labels of a domain name in full characters, and their spelling in ASCII. A label with characters
outside ASCII is spelled by a sign and its Punycode; one that is written in this way must stand for
something that needs it and that is in the form in which names are looked up.
-/

namespace SchemaPipeline.Idna

/-! ## Joiners -/

def nonJoiner : Char := Char.ofNat 0x200c
def joiner : Char := Char.ofNat 0x200d

/-- The place of the marks that take the vowel from a letter. -/
def vowelKiller : Nat := 9

def endsInVowelKiller (before : List Char) : Bool :=
  match before with
  | c :: _ => Unicode.place c.toNat == vowelKiller
  | [] => false

def skipTransparent (cs : List Char) : List Char := cs.dropWhile fun c => Unicode.joins "T" c.toNat

/-- Whether the next letter joins to a side. -/
def reaches (side : String) (cs : List Char) : Bool :=
  (skipTransparent cs).head?.any fun c =>
    Unicode.joins side c.toNat || Unicode.joins "D" c.toNat

/-- Whether each joiner, and each sign against joining, has an effect; `before` is what has been
passed, from its end. -/
def joinersFit (before : List Char) : List Char → Bool
  | [] => true
  | c :: rest =>
    let fits :=
      if c = joiner then endsInVowelKiller before
      else if c = nonJoiner then
        endsInVowelKiller before || (reaches "L" before && reaches "R" rest)
      else true
    fits && joinersFit (c :: before) rest

/-! ## Labels -/

def isAscii (cs : List Char) : Bool := cs.all (·.toNat < 0x80)

/-- What a label in ASCII starts with that stands for another one. -/
def sign : List Char := ['x', 'n', '-', '-']

/-- Whether hyphens are at the ends of a label, or where a sign has them. -/
def hasStrayHyphen (label : List Char) : Bool :=
  label.head? == some '-' || label.getLast? == some '-' ||
    (label.drop 2).take 2 == ['-', '-']

def startsWithMark (label : List Char) : Bool := label.head?.any fun c => Unicode.isMark c.toNat

/-- Whether a label in full characters can be part of a name. -/
def isLabel (label : List Char) : Bool :=
  label.all isKept && !startsWithMark label && joinersFit [] label

/-- A label in full characters, from one in the form in which it is looked up. -/
def expand? (label : List Char) : Option (List Char) :=
  if label.take 4 = sign then
    match Punycode.decode? (label.drop 4) with
    | some full =>
      if isAscii label && !isAscii full && Unicode.composeText full == full && isLabel full then
        some full
      else none
    | none => none
  else if isAscii label || isLabel label then some label
  else none

/-- The spelling of a label in ASCII. -/
def contract (label : List Char) : List Char :=
  if isAscii label then label else sign ++ Punycode.encode label

/-! ## Names -/

/-- The labels of a name in full characters. -/
def labels? (cs : List Char) : Option (List (List Char)) := do
  let mapped ← mapText cs
  let labels ← (Text.splitOn (· == '.') mapped).mapM expand?
  if areOrdered labels then some labels else none

/-- The spelling of labels with dots between them. -/
def joinLabels (labels : List (List Char)) : List Char := ['.'].intercalate labels

/-- The spelling of a name in ASCII. -/
def toAscii? (cs : List Char) : Option (List Char) :=
  (labels? cs).map fun labels => joinLabels (labels.map contract)

end SchemaPipeline.Idna
