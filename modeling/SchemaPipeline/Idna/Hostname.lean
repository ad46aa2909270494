import SchemaPipeline.Idna.Domain
import SchemaPipeline.Unicode.Script

/-!
# Names of hosts

Which domain names a host may have. Apart from what holds of every domain name, the labels have no
hyphens where none belong, they keep to letters, digits and hyphens as far as they are ASCII, the
spelling in ASCII is not too long, and some characters need certain others.
-/

namespace SchemaPipeline.Idna

/-! ## Labels -/

def isAsciiSign (c : Char) : Bool := c.isLower || c.isDigit || c == '-'

/-- Whether a label in full characters may be one of a host. -/
def isHostLabel (label : List Char) : Bool :=
  !hasStrayHyphen label && label.all fun c => 0x80 ≤ c.toNat || isAsciiSign c

/-- Whether labels in ASCII are neither empty nor too long. -/
def haveGoodLength (labels : List (List Char)) : Bool :=
  (joinLabels labels).length ≤ 253 &&
    labels.all fun label => 1 ≤ label.length && label.length ≤ 63

/-! ## Company -/

def inScript (name : String) (c : Char) : Bool := (Unicode.script? name).any (·.has c.toNat)

def isMiddleDot (c : Char) : Bool := c.toNat == 0xb7
def isGreekMark (c : Char) : Bool := c.toNat == 0x375
def isHebrewMark (c : Char) : Bool := c.toNat == 0x5f3 || c.toNat == 0x5f4
def isKatakanaDot (c : Char) : Bool := c.toNat == 0x30fb

def isArabicDigit (c : Char) : Bool := 0x660 ≤ c.toNat && c.toNat ≤ 0x669
def isPersianDigit (c : Char) : Bool := 0x6f0 ≤ c.toNat && c.toNat ≤ 0x6f9

/-- Characters that no name has, although they would be kept in one. -/
def isNeverNamed (c : Char) : Bool :=
  [0x640, 0x7fa, 0x302e, 0x302f, 0x3031, 0x3032, 0x3033, 0x3034, 0x3035, 0x303b].contains c.toNat

/-- Whether a character may stand between two others. -/
def fitsBetween (before after : Option Char) (c : Char) : Bool :=
  if isNeverNamed c then false
  else if isMiddleDot c then before == some 'l' && after == some 'l'
  else if isGreekMark c then after.any (inScript "Greek")
  else if isHebrewMark c then before.any (inScript "Hebrew")
  else true

/-- Whether each character of a text may stand where it does, after another one. -/
def fitNeighbours (before : Option Char) : List Char → Bool
  | [] => true
  | c :: rest => fitsBetween before rest.head? c && fitNeighbours (some c) rest

def isJapanese (c : Char) : Bool :=
  inScript "Hiragana" c || inScript "Katakana" c || inScript "Han" c

/-- Whether the characters of a name go together. -/
def goTogether (cs : List Char) : Bool :=
  fitNeighbours none cs &&
    !(cs.any isArabicDigit && cs.any isPersianDigit) &&
    (!cs.any isKatakanaDot || cs.any isJapanese)

/-! ## Names -/

/-- Whether a text names a host, in characters of any script. -/
def isHostname (cs : List Char) : Bool :=
  match labels? cs with
  | some labels =>
    labels.all isHostLabel && haveGoodLength (labels.map contract) && goTogether (joinLabels labels)
  | none => false

end SchemaPipeline.Idna
