import SchemaPipeline.Text.Pieces

/-!
# Blanks

The characters with the Unicode property of white space, and texts without them at the ends.
-/

namespace SchemaPipeline.Text

def isBlank (c : Char) : Bool :=
  let n := c.toNat
  (0x9 ≤ n && n ≤ 0xd) || n == 0x20 || n == 0x85 || n == 0xa0 || n == 0x1680 ||
    (0x2000 ≤ n && n ≤ 0x200a) || n == 0x2028 || n == 0x2029 || n == 0x202f || n == 0x205f ||
    n == 0x3000

def trimBlank (cs : List Char) : List Char := trim isBlank cs

/-- A text in lower case without blanks at the ends; only ASCII letters have a case here. -/
def foldCase (text : String) : String := String.ofList (lowerAscii (trimBlank text.toList))

end SchemaPipeline.Text
