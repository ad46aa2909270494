/-!
# Tables of characters

What a standard says about characters, written as a text of words and read into sorted arrays. A
word is a range of code points, `41-5a` or `b5`, and may state something about them after a mark,
mostly the code points that take their place. With `/2` every other code point of the range is
meant, and where a single one takes the place of a range, it is that of the first and the others
follow. A word that starts with a capital letter names the class that the ranges after it make up.
-/

namespace SchemaPipeline.Unicode

/-! ## Words -/

def hexValue (c : Char) : Nat :=
  if c.isDigit then c.toNat - '0'.toNat else c.toNat - 'a'.toNat + 10

def hexNumber (cs : List Char) : Nat := cs.foldl (fun n c => n * 16 + hexValue c) 0

/-- The words so far, newest first, and the word at hand, from its end. -/
structure WordState where
  words : List (List Char)
  current : List Char

def WordState.close (s : WordState) : List (List Char) :=
  if s.current.isEmpty then s.words else s.current.reverse :: s.words

def WordState.add (s : WordState) (c : Char) : WordState :=
  if c == ' ' || c == '\n' then ⟨s.close, []⟩ else ⟨s.words, c :: s.current⟩

/-- The words of a text. -/
def words (text : String) : List (List Char) :=
  (text.toList.foldl WordState.add ⟨[], []⟩).close.reverse

/-! ## Ranges -/

/-- The code points from one to another, or every other one of them. -/
structure Range where
  first : Nat
  last : Nat
  step : Nat
deriving DecidableEq, Repr, Inhabited

namespace Range

def has (r : Range) (n : Nat) : Bool :=
  r.first ≤ n && n ≤ r.last && (n - r.first) % r.step == 0

/-- The characters that a range is written with. -/
def isSpelling (c : Char) : Bool := c.isAlphanum || c == '-' || c == '/'

def ofWord (cs : List Char) : Range :=
  let (ends, step) := (cs.takeWhile (· != '/'), if cs.contains '/' then 2 else 1)
  let first := hexNumber (ends.takeWhile (· != '-'))
  let last := if ends.contains '-' then hexNumber ((ends.dropWhile (· != '-')).drop 1) else first
  ⟨first, last, step⟩

end Range

/-! ## Looking up -/

/-- The last element of a sorted array whose key is not above a number, between two places. -/
def searchBetween {α : Type} (key : α → Nat) (xs : Array α) (n : Nat) :
    Nat → Nat → Nat → Option α
  | 0, _, _ => none
  | fuel + 1, low, high =>
    if low + 1 < high then
      let middle := (low + high) / 2
      if (xs[middle]?).any (key · ≤ n) then searchBetween key xs n fuel middle high
      else searchBetween key xs n fuel low middle
    else (xs[low]?).filter (key · ≤ n)

/-- The last element of a sorted array whose key is not above a number. -/
def search {α : Type} (key : α → Nat) (xs : Array α) (n : Nat) : Option α :=
  searchBetween key xs n (xs.size + 1) 0 xs.size

/-- Sorted ranges without a code point in common. -/
abbrev Ranges : Type := Array Range

def Ranges.has (rs : Ranges) (n : Nat) : Bool := (search Range.first rs n).any (·.has n)

def Ranges.ofText (text : String) : Ranges := ((words text).map Range.ofWord).toArray

/-- The classes that words list, newest first. -/
def addToClasses (classes : List (String × Ranges)) (word : List Char) :
    List (String × Ranges) :=
  if word.head?.any Char.isUpper then (String.ofList word, #[]) :: classes
  else
    match classes with
    | (name, ranges) :: more => (name, ranges.push (Range.ofWord word)) :: more
    | [] => []

/-- The classes that a text lists, with their ranges. -/
def classesOfText (text : String) : List (String × Ranges) :=
  ((words text).foldl addToClasses []).reverse

/-- A range, a mark that says what is stated about it, and code points. -/
structure Entry where
  range : Range
  mark : Char
  targets : List Nat
deriving DecidableEq, Repr, Inhabited

namespace Entry

def numbers (cs : List Char) : List Nat :=
  (cs.foldl (fun s c => if c == '.' then ⟨s.close, []⟩ else ⟨s.words, c :: s.current⟩)
    (⟨[], []⟩ : WordState)).close.reverse.map hexNumber

def ofWord (cs : List Char) : Entry :=
  let spelling := cs.takeWhile Range.isSpelling
  let rest := cs.drop spelling.length
  ⟨Range.ofWord spelling, rest.headD ' ', numbers (rest.drop 1)⟩

/-- What takes the place of a code point of the range. -/
def image (e : Entry) (n : Nat) : List Nat :=
  match e.targets with
  | [t] => [t + (n - e.range.first)]
  | ts => ts

end Entry

/-- Entries sorted by their ranges, which have no code point in common. -/
abbrev Entries : Type := Array Entry

def Entries.ofText (text : String) : Entries := ((words text).map Entry.ofWord).toArray

/-- The entry that a code point belongs to. -/
def Entries.find? (es : Entries) (n : Nat) : Option Entry :=
  (search (·.range.first) es n).filter (·.range.has n)

end SchemaPipeline.Unicode
