import SchemaPipeline.Yaml.Cursor

/-!
# Reading scalars

The three ways to write a text: plain, in quotes, and as a block of lines. Line breaks inside a
plain or a quoted scalar are folded: a single one is a space, and of several the first is dropped.
The breaks that are read as themselves are kept.

`least` is the least column in which the lines of a scalar may start.
-/

namespace SchemaPipeline.Yaml

/-- What stands between two words of a scalar: blanks of a line, or line breaks. The first break is
absent if it was escaped. -/
inductive Gap where
  | blanks (cs : List Char)
  | breaks (first : Option Char) (more : List Char)

namespace Gap

def none : Gap := .blanks []

def hasBreak : Gap → Bool
  | .blanks _ => false
  | .breaks _ _ => true

/-- The characters that a gap is read as. -/
def text : Gap → List Char
  | .blanks cs => cs
  | .breaks Option.none more => more
  | .breaks (some '\n') [] => [' ']
  | .breaks (some '\n') more => more
  | .breaks (some ch) more => ch :: more

def addBlank (ch : Char) : Gap → Gap
  | .blanks cs => .blanks (cs ++ [ch])
  | g => g

def addBreak (ch : Char) : Gap → Gap
  | .blanks _ => .breaks (some ch) []
  | .breaks first more => .breaks first (more ++ [ch])

/-- Passes over blanks and breaks. A tab to the left of the least column is an error. -/
def read (least : Nat) : Nat → Cursor → Gap → Option (Gap × Cursor)
  | 0, _, _ => Option.none
  | fuel + 1, c, g =>
    match c.takeBreak? with
    | some (ch, next) => read least fuel next (g.addBreak ch)
    | Option.none =>
      match c.rest with
      | ' ' :: _ => read least fuel (c.advance 1) (g.addBlank ' ')
      | '\t' :: _ =>
        if g.hasBreak && c.column < least then Option.none
        else read least fuel (c.advance 1) (g.addBlank '\t')
      | _ => some (g, c)

end Gap

/-! ## Plain scalars -/

namespace Plain

def isFlowMark (ch : Char) : Bool := [',', '[', ']', '\x7b', '\x7d'].contains ch

def isIndicator (ch : Char) : Bool :=
  isFlowMark ch ||
    ['-', '?', ':', '#', '&', '*', '!', '|', '>', Char.ofNat 0x27, '"', '%', '@',
      Char.ofNat 0x60].contains ch

/-- Whether a plain scalar can start with these characters. -/
def starts (flow : Bool) : List Char → Bool
  | [] => false
  | '-' :: rest => !startsBlank rest
  | '?' :: rest => !flow && !startsBlank rest
  | ':' :: rest => !flow && !startsBlank rest
  | c :: _ => !separates c && !isIndicator c

/-- Whether a colon in brackets runs into something that no value can start with. -/
def isStrayColon (flow : Bool) (ch : Char) (rest : List Char) : Bool :=
  flow && ch == ':' && rest.head?.any fun next => isFlowMark next || next == '?'

/-- Whether a word ends before a character. -/
def endsWord (flow : Bool) (ch : Char) (rest : List Char) : Bool :=
  separates ch || (ch == ':' && startsBlank rest) || (flow && isFlowMark ch)

/-- The characters up to the end of a word. -/
def word? (flow : Bool) : List Char → Option (List Char)
  | [] => some []
  | ch :: rest =>
    if isStrayColon flow ch rest then none
    else if endsWord flow ch rest then some []
    else (word? flow rest).map (ch :: ·)

/-- The text of a plain scalar, and the gap after it. -/
def read (flow : Bool) (least : Nat) : Nat → Cursor → Gap → List Char →
    Option (List Char × Gap × Cursor)
  | 0, _, _, _ => none
  | fuel + 1, c, gap, acc => do
    if c.atMarker || c.startsWith '#' then some (acc, gap, c)
    else
      let word ← word? flow c.rest
      let next := c.advance word.length
      let (acc, gap) := if word.isEmpty then (acc, gap) else (acc ++ gap.text ++ word, Gap.none)
      if next.rest.isEmpty || !startsBlank next.rest then some (acc, gap, next)
      else
        let (gap, next) ← gap.read least (next.rest.length + 1) next
        if !flow && next.column < least then some (acc, gap, next)
        else read flow least fuel next gap acc

end Plain

/-! ## Quoted scalars -/

namespace Quoted

def simpleEscape? : Char → Option Nat
  | '0' => some 0
  | 'a' => some 7
  | 'b' => some 8
  | 't' => some 9
  | '\t' => some 9
  | 'n' => some 10
  | 'v' => some 11
  | 'f' => some 12
  | 'r' => some 13
  | 'e' => some 27
  | ' ' => some 32
  | '"' => some 34
  | '/' => some 47
  | '\\' => some 92
  | 'N' => some 0x85
  | '_' => some 0xa0
  | 'L' => some 0x2028
  | 'P' => some 0x2029
  | _ => none

def escapeWidth? : Char → Option Nat
  | 'x' => some 2
  | 'u' => some 4
  | 'U' => some 8
  | _ => none

def hexDigit? (c : Char) : Option Nat :=
  if c.isDigit then some (c.toNat - '0'.toNat)
  else if 'a' ≤ c ∧ c ≤ 'f' then some (c.toNat - 'a'.toNat + 10)
  else if 'A' ≤ c ∧ c ≤ 'F' then some (c.toNat - 'A'.toNat + 10)
  else none

def hexNumber? (cs : List Char) : Option Nat :=
  cs.foldlM (fun n c => (hexDigit? c).map (n * 16 + ·)) 0

/-- The character of an escape, and how many characters were read after the backslash. -/
def escape? (cs : List Char) : Option (Char × Nat) :=
  match cs with
  | [] => none
  | c :: rest =>
    match simpleEscape? c, escapeWidth? c with
    | some n, _ => some (Char.ofNat n, 1)
    | none, some width =>
      let ds := rest.take width
      if ds.length = width then
        (hexNumber? ds).bind fun n =>
          if h : n.isValidChar then some (Char.ofNatAux n h, width + 1) else none
      else none
    | none, none => none

def singleQuote : Char := Char.ofNat 0x27
def doubleQuote : Char := '"'

/-- What comes next inside quotes. -/
inductive Piece where
  | close
  | char (ch : Char) (width : Nat)
  | gap
  | escapedBreak

/-- The next piece of a scalar in the given quotes. In single quotes a quote is written twice, in
double quotes there are escapes. -/
def piece? (quote : Char) : List Char → Option Piece
  | [] => none
  | ch :: rest =>
    if ch = quote then
      if quote = singleQuote && rest.head? == some quote then some (.char quote 2) else some .close
    else if separates ch then some .gap
    else if ch = '\\' && quote = doubleQuote then
      if rest.head?.any isBreak then some .escapedBreak
      else (escape? rest).map fun (ch, n) => .char ch (n + 1)
    else some (.char ch 1)

/-- The text of a quoted scalar after its opening quote. -/
def read (quote : Char) : Nat → Cursor → List Char → Option (List Char × Cursor)
  | 0, _, _ => none
  | fuel + 1, c, acc => do
    if c.atMarker then none
    else
      match ← piece? quote c.rest with
      | .close => some (acc, c.advance 1)
      | .char ch width => read quote fuel (c.advance width) (acc ++ [ch])
      | .gap =>
        let (gap, next) ← Gap.none.read 0 (c.rest.length + 1) c
        read quote fuel next (acc ++ gap.text)
      | .escapedBreak =>
        let (_, next) ← (c.advance 1).takeBreak?
        let (gap, next) ← (Gap.breaks none []).read 0 (next.rest.length + 1) next
        read quote fuel next (acc ++ gap.text)

end Quoted

/-! ## Blocks of lines -/

/-- What becomes of the line breaks at the end of a block. -/
inductive Chomping where
  | strip
  | clip
  | keep
deriving DecidableEq

namespace Block

/-- The header of a block: how its end is treated, and how far its lines are indented, if it says
so. -/
structure Header where
  chomping : Chomping
  indent : Option Nat

def chomping? : List Char → Option Chomping
  | '+' :: _ => some .keep
  | '-' :: _ => some .strip
  | _ => none

/-- The digit that says how far the lines are indented. It cannot be a zero. -/
def indent? : List Char → Option (Option Nat)
  | '0' :: _ => none
  | c :: _ => if c.isDigit then some (some (c.toNat - '0'.toNat)) else some none
  | [] => some none

/-- The header after the mark of a block. Its two parts come in any order. -/
def header? (c : Cursor) : Option (Header × Cursor) :=
  match chomping? c.rest with
  | some chomping =>
    let c := c.advance 1
    (indent? c.rest).map fun indent => (⟨chomping, indent⟩, c.advance indent.toList.length)
  | none =>
    (indent? c.rest).map fun
      | none => (⟨.clip, none⟩, c)
      | some n =>
        let c := c.advance 1
        match chomping? c.rest with
        | some chomping => (⟨chomping, some n⟩, c.advance 1)
        | none => (⟨.clip, some n⟩, c)

/-- Passes over empty lines and the indentation of the line after them. Answers the breaks, the
greatest column reached, and the place. Where a tab indents, there is an error. -/
def skipEmpty (indent : Option Nat) : Nat → Cursor → Nat → List Char →
    Option (List Char × Nat × Cursor)
  | 0, _, _, _ => none
  | fuel + 1, c, greatest, breaks =>
    let spaces := (c.rest.takeWhile (· == ' ')).length
    let c := c.advance (match indent with | some n => min spaces (n - c.column) | none => spaces)
    let greatest := max greatest c.column
    let indents := indent.all (c.column < ·)
    if indents && c.startsWith '\t' then none
    else
      match c.takeBreak? with
      | some (ch, next) => skipEmpty indent fuel next greatest (breaks ++ [ch])
      | none => some (breaks, greatest, c)

/-- The text of a block so far: with the break that ended the last line, the breaks of the empty
lines after it, and whether that line started with a blank. -/
structure Progress where
  text : List Char
  ended : List Char
  empty : List Char
  wasBlank : Bool

/-- The text with another line. In a folded block a break between two lines that start with no
blank is a space, or goes if empty lines follow it. -/
def Progress.addLine (p : Progress) (literal : Bool) (line ended empty : List Char) : Progress :=
  let isBlank := line.head?.any isInlineBlank
  let folds := !literal && p.ended == ['\n'] && !p.wasBlank && !isBlank
  let glue := if folds then (if p.empty.isEmpty then [' '] else []) else p.ended
  ⟨p.text ++ glue ++ p.empty ++ line, ended, empty, isBlank⟩

/-- Reads the lines that start in the column of the block. -/
def readLines (literal : Bool) (indent : Nat) : Nat → Cursor → Progress →
    Option (Progress × Cursor)
  | 0, _, _ => none
  | fuel + 1, c, p =>
    if c.column != indent || c.rest.isEmpty then some (p, c)
    else do
      let line := c.rest.takeWhile (!isBreak ·)
      let c := c.advance line.length
      let (ended, c) :=
        match c.takeBreak? with
        | some (ch, next) => ([ch], next)
        | none => ([], c)
      let (empty, _, c) ← skipEmpty (some indent) (c.rest.length + 1) c 0 []
      readLines literal indent fuel c (p.addLine literal line ended empty)

def Progress.finish (p : Progress) : Chomping → List Char
  | .strip => p.text
  | .clip => p.text ++ p.ended
  | .keep => p.text ++ p.ended ++ p.empty

/-- The text of a block after its mark. Without a word in the header the lines start where the
first line does that is not empty, but not to the left of the longest empty one. -/
def read (literal : Bool) (least : Nat) (c : Cursor) : Option (List Char × Cursor) := do
  let (header, c) ← header? c
  let c ← c.finishLine?
  let announced := header.indent.map ((least - 1) + ·)
  let (empty, greatest, c) ← skipEmpty announced (c.rest.length + 1) c 0 []
  let indent := announced.getD (max (max greatest least) 1)
  let (p, c) ← readLines literal indent (c.rest.length + 1) c ⟨[], [], empty, false⟩
  some (p.finish header.chomping, c)

end Block

end SchemaPipeline.Yaml
