import SchemaPipeline.Pattern.CharSet
import SchemaPipeline.Text.Pieces
import SchemaPipeline.Unicode.Naming

/-!
# Sets with names

The sets that a pattern calls by name: by a letter after a backslash, by a name between colons, or
by what Unicode says about their characters. In a pattern the letters stand either for ASCII
characters or for all of Unicode.
-/

namespace SchemaPipeline.CharSet

open Unicode (Ranges looseName)

/-! ## Names of Unicode -/

def ofTables (tables : List Ranges) : CharSet := ofList (tables.map .table)

def assigned : CharSet := ofTables (Unicode.categoryTable.map (·.2))

/-- The characters of a category or of a group of them. No character is a surrogate, so there is
no such category. -/
def category? (name : List Char) : Option CharSet := do
  let found ← Unicode.categoryNames.lookup name
  let tables := (Unicode.categoriesOf found).filterMap (Unicode.categoryTable.lookup ·)
  match found with
  | "Cs" => none
  | "Cn" => some (.compl assigned)
  | "C" => some (.union (.compl assigned) (ofTables tables))
  | _ => some (ofTables tables)

/-- The characters of a category, or one of three sets that count as such. -/
def categoryLike? (name : List Char) : Option CharSet :=
  if name = "any".toList then some all
  else if name = "assigned".toList then some assigned
  else if name = "ascii".toList then some (.range 0 0x7f)
  else category? name

def script? (name : List Char) : Option CharSet :=
  ((Unicode.scriptNames.lookup name).bind Unicode.script?).map .table

def extensions? (name : List Char) : Option CharSet :=
  ((Unicode.scriptNames.lookup name).bind Unicode.extensions?).map .table

def property? (name : List Char) : Option CharSet :=
  ((Unicode.propertyNames.lookup name).bind Unicode.property?).map .table

/-- Short names of properties that are kept for the categories with the same short name. -/
def keptForCategories : List (List Char) := ["cf".toList, "sc".toList, "lc".toList]

/-- The characters that a single name calls: a property, a category or a script. -/
def ofName? (name : List Char) : Option CharSet :=
  let loose := looseName name
  let found := if keptForCategories.contains loose then none else property? loose
  (found.orElse fun _ => categoryLike? loose).orElse fun _ => script? loose

/-- The characters whose property of one name has the value of another. -/
def ofValue? (property value : List Char) : Option CharSet :=
  let (property, value) := (String.ofList (looseName property), looseName value)
  if property = "gc" ∨ property = "generalcategory" then categoryLike? value
  else if property = "sc" ∨ property = "script" then script? value
  else if property = "scx" ∨ property = "scriptextensions" then extensions? value
  else none

/-- The parts of a text before and after two characters that follow each other. -/
def splitAtPair (a b : Char) : List Char → Option (List Char × List Char)
  | [] => none
  | [_] => none
  | c :: d :: cs =>
    if c == a && d == b then some ([], cs)
    else (splitAtPair a b (d :: cs)).map fun (before, after) => (c :: before, after)

/-- What stands between the braces of a property: a name, or a name and a value, which may be
denied. -/
def query? (text : List Char) : Option CharSet :=
  match splitAtPair '!' '=' text, Text.splitFirst ':' text, Text.splitFirst '=' text with
  | some (property, value), _, _ => (ofValue? property value).map .compl
  | none, some (property, value), _ => ofValue? property value
  | none, none, some (property, value) => ofValue? property value
  | none, none, none => ofName? text

/-! ## Letters after a backslash -/

/-- What the letters after a backslash stand for. -/
inductive Meaning where
  | ascii
  | unicode
deriving DecidableEq, Repr

/-- What a word is made of in any script. -/
def unicodeWord : CharSet :=
  ofList [(property? "alphabetic".toList).getD .empty, (category? ['m']).getD .empty,
    (category? "nd".toList).getD .empty, (category? "pc".toList).getD .empty,
    (property? "joincontrol".toList).getD .empty]

/-- The digits, the word characters or the blanks, by letter. -/
def baseOfLetter? (meaning : Meaning) (letter : Char) : Option CharSet :=
  match meaning, letter with
  | .ascii, 'd' => some digits
  | .ascii, 'w' => some word
  | .ascii, 's' => some blank
  | .unicode, 'd' => category? "nd".toList
  | .unicode, 'w' => some unicodeWord
  | .unicode, 's' => property? "whitespace".toList
  | _, _ => none

/-- The set that a letter after a backslash stands for; an upper-case letter stands for all but
that of the lower-case one. Leaving case out makes a difference for the ASCII sets only. -/
def ofLetter? (meaning : Meaning) (ignoresCase : Bool) (letter : Char) : Option CharSet :=
  (baseOfLetter? meaning letter.toLower).map fun set =>
    (set.caseless (ignoresCase && meaning == .ascii)).signed letter.isLower

/-! ## Names between colons -/

/-- The ASCII set of a name. -/
def posix? (name : String) : Option CharSet :=
  match name with
  | "alnum" => some (.union letters digits)
  | "alpha" => some letters
  | "ascii" => some (.range 0 0x7f)
  | "blank" => some (.union (single '\t') (single ' '))
  | "cntrl" => some (.union (.range 0 0x1f) (.range 0x7f 0x7f))
  | "digit" => some digits
  | "graph" => some (between '!' '~')
  | "lower" => some lower
  | "print" => some (between ' ' '~')
  | "punct" =>
    some (ofList [between '!' '/', between ':' '@', between '[' (Char.ofNat 0x60),
      between (Char.ofNat 0x7b) '~'])
  | "space" => some (.union (.range 9 13) (single ' '))
  | "upper" => some upper
  | "word" => some word
  | "xdigit" => some hexDigits
  | _ => none

end SchemaPipeline.CharSet
