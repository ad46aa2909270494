import SchemaPipeline.Text.Pieces

/-!
# Templates of identifiers

A template is a text in which expressions stand in braces, and nothing stands outside of them that
would have to be encoded. An expression is a list of variables, after a sign that tells what becomes
of them. Letters in names and in hexadecimal numbers are lower case.
-/

namespace SchemaPipeline.Template

def isHexDigit (c : Char) : Bool := c.isDigit || ('a' ≤ c && c ≤ 'f')

def isNameChar (c : Char) : Bool := c.isLower || c.isDigit || c == '_'

/-- Whether a text is made of characters of a class and of encoded ones. -/
def isEncoded (isPlain : Char → Bool) : List Char → Bool
  | [] => true
  | '%' :: h :: l :: rest => isHexDigit h && isHexDigit l && isEncoded isPlain rest
  | c :: rest => c != '%' && isPlain c && isEncoded isPlain rest

/-- A number of at most four digits that is not zero. -/
def isLength (ds : List Char) : Bool :=
  ds.all Char.isDigit && ds.length ≤ 4 && ds.head?.any (· != '0')

/-- A variable; its value may be cut after some characters, or taken apart. -/
def isVariable (cs : List Char) : Bool :=
  let (name, mark) := Text.spanUntil (fun c => c == ':' || c == '*') cs
  !name.isEmpty && isEncoded isNameChar name &&
    match mark with
    | [] => true
    | ['*'] => true
    | ':' :: ds => isLength ds
    | _ => false

def signs : List Char := ['+', '#', '.', '/', ';', '?', '&', '=', ',', '!', '@', '|']

def isExpression (cs : List Char) : Bool :=
  let list := if cs.head?.any signs.contains then cs.drop 1 else cs
  (Text.splitOn (· == ',') list).all isVariable

/-- Whether a character can stand for itself outside of the braces. -/
def isLiteral (c : Char) : Bool :=
  0x20 < c.toNat &&
    !(['"', Char.ofNat 0x27, '<', '>', '\\', '^', Char.ofNat 0x60, '|'].contains c)

/-- Whether the rest of a text completes a template, given what precedes it since the last brace,
from its end, and whether that one opens an expression. -/
def isTemplateFrom (inExpression : Bool) (before : List Char) : List Char → Bool
  | [] => !inExpression && isEncoded isLiteral before.reverse
  | c :: rest =>
    if c = '\x7b' then
      !inExpression && isEncoded isLiteral before.reverse && isTemplateFrom true [] rest
    else if c = '\x7d' then
      inExpression && isExpression before.reverse && isTemplateFrom false [] rest
    else isTemplateFrom inExpression (c :: before) rest

def isTemplate (cs : List Char) : Bool := isTemplateFrom false [] cs

end SchemaPipeline.Template
