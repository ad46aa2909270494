import SchemaPipeline.Yaml.Property
import SchemaPipeline.Yaml.Scalar

/-!
# Layout

The tokens of a YAML text. In blocks, columns take the place of brackets: a dash or a key to the
right of the block at hand starts a block, and anything to the left of it ends it. Between brackets
columns do not count.

Anything that stands where a key may stand is a candidate for one. It becomes a key when a colon
follows it on its line and not too far off. The token for that goes before the candidate's own
tokens, and so does the start of a mapping if the candidate is to the right of the block at hand. A
candidate in the very column of a block cannot be anything but a key.
-/

namespace SchemaPipeline.Yaml

/-- Something that may turn out to be a key: where it starts, and how many tokens are before it. -/
structure Candidate where
  required : Bool
  position : Nat
  index : Nat
  line : Nat
  column : Nat

/-- The state of the scanner. `floor` is the least column to the right of the block at hand, and
`outer` holds those of the blocks around it. There is a candidate at hand, or none, and another for
each pair of brackets around. The tokens are kept newest first. -/
structure Layout where
  cursor : Cursor
  floor : Nat
  outer : List Nat
  candidate : Option Candidate
  enclosing : List (Option Candidate)
  keyAllowed : Bool
  tokens : List Token
  count : Nat

namespace Layout

def start (cs : List Char) : Layout := ⟨Cursor.ofChars cs, 0, [], none, [], true, [], 0⟩

def inFlow (l : Layout) : Bool := !l.enclosing.isEmpty

def emit (l : Layout) (t : Token) : Layout :=
  { l with tokens := t :: l.tokens, count := l.count + 1 }

/-- Puts a token before all but so many others. -/
def emitAt (l : Layout) (position : Nat) (t : Token) : Layout :=
  let later := l.count - position
  { l with tokens := l.tokens.take later ++ t :: l.tokens.drop later, count := l.count + 1 }

/-! ## Blocks -/

/-- Starts a block in a column, if that is to the right of the block at hand. -/
def openBlock (l : Layout) (column position : Nat) (t : Token) : Layout :=
  if !l.inFlow && l.floor ≤ column then
    { l.emitAt position t with floor := column + 1, outer := l.floor :: l.outer }
  else l

def closeBlocksTo (floor : Nat) : List Nat → Layout → Layout
  | [], l => l
  | f :: outer, l =>
    if floor < l.floor then closeBlocksTo floor outer { l.emit .blockEnd with floor := f, outer }
    else l

/-- Ends the blocks to the right of a place. -/
def closeBlocks (l : Layout) (floor : Nat) : Layout :=
  if l.inFlow then l else closeBlocksTo floor l.outer l

/-! ## Candidates -/

/-- How far a colon can be from the start of its key. -/
def maxKeyLength : Nat := 1024

def isStale (c : Cursor) (k : Candidate) : Bool :=
  k.line < c.line || k.index + maxKeyLength < c.index

/-- Gives up a candidate, which must not be required. -/
def giveUp : Option Candidate → Option (Option Candidate)
  | some k => if k.required then none else some none
  | none => some none

def giveUpStale (c : Cursor) : Option Candidate → Option (Option Candidate)
  | some k => if isStale c k then giveUp (some k) else some (some k)
  | none => some none

/-- Gives up the candidates whose colon cannot come any more. -/
def dropStale (l : Layout) : Option Layout := do
  let candidate ← giveUpStale l.cursor l.candidate
  let enclosing ← l.enclosing.mapM (giveUpStale l.cursor)
  some { l with candidate, enclosing }

def dropCandidate (l : Layout) : Option Layout :=
  (giveUp l.candidate).map fun candidate => { l with candidate }

/-- Takes what starts here as a candidate, where a key may stand. -/
def saveCandidate (l : Layout) : Option Layout :=
  if l.keyAllowed then
    let c := l.cursor
    (giveUp l.candidate).map fun _ =>
      { l with
        candidate :=
          some ⟨!l.inFlow && l.floor == c.column + 1, l.count, c.index, c.line, c.column⟩ }
  else some l

/-! ## Tokens -/

def allowKey (allowed : Bool) (l : Layout) : Layout := { l with keyAllowed := allowed }

/-- Passes over characters and adds their token. -/
def take (n : Nat) (t : Token) (l : Layout) : Layout :=
  { l with cursor := l.cursor.advance n }.emit t

/-- Goes on to the next token. A tab is no blank where a key may start a block. -/
def skipToToken : Nat → Layout → Layout
  | 0, l => l
  | fuel + 1, l =>
    let c := l.cursor
    let c := if c.column == 0 && c.startsWith byteOrderMark then c.advance 1 else c
    let tabs := l.inFlow || !l.keyAllowed
    let c := (c.skipWhile fun ch => ch == ' ' || (tabs && ch == '\t')).skipComment
    match c.takeBreak? with
    | some (_, next) =>
      skipToToken fuel { l with cursor := next, keyAllowed := l.keyAllowed || !l.inFlow }
    | none => { l with cursor := c }

/-- A line that starts or ends a document. -/
def marker (t : Token) (l : Layout) : Option Layout :=
  (l.closeBlocks 0).dropCandidate.map fun l => (l.allowKey false).take 3 t

def directive (l : Layout) : Option Layout := do
  let l ← (l.closeBlocks 0).dropCandidate
  let (token, c) ← readDirective (l.cursor.advance 1)
  some ({ l.allowKey false with cursor := c }.emit token)

def openBracket (t : Token) (l : Layout) : Option Layout :=
  l.saveCandidate.map fun l =>
    { (l.allowKey true).take 1 t with candidate := none, enclosing := l.candidate :: l.enclosing }

def closeBracket (t : Token) (l : Layout) : Option Layout :=
  l.dropCandidate.map fun l =>
    let l := (l.allowKey false).take 1 t
    match l.enclosing with
    | [] => l
    | candidate :: enclosing => { l with candidate, enclosing }

def comma (l : Layout) : Option Layout :=
  l.dropCandidate.map fun l => (l.allowKey true).take 1 .flowEntry

/-- A dash or a question mark in a block, which may start one. -/
def blockMark (opening : Token) (l : Layout) : Option Layout :=
  if l.inFlow then some l
  else if l.keyAllowed then some (l.openBlock l.cursor.column l.count opening)
  else none

def dash (l : Layout) : Option Layout := do
  let l ← (← l.blockMark .blockSequenceStart).dropCandidate
  some ((l.allowKey true).take 1 .blockEntry)

def questionMark (l : Layout) : Option Layout := do
  let l ← (← l.blockMark .blockMappingStart).dropCandidate
  some ((l.allowKey (!l.inFlow)).take 1 .key)

/-- A colon, which makes the candidate a key. -/
def colon (l : Layout) : Option Layout :=
  match l.candidate with
  | some k =>
    let l := (l.emitAt k.position .key).openBlock k.column k.position .blockMappingStart
    some ({ l.allowKey false with candidate := none }.take 1 .value)
  | none =>
    (l.blockMark .blockMappingStart).map fun l => (l.allowKey (!l.inFlow)).take 1 .value

/-- An alias or an anchor. -/
def named (token : String → Token) (l : Layout) : Option Layout := do
  let l ← l.saveCandidate
  let (name, c) ← readName (l.cursor.advance 1)
  some ({ l.allowKey false with cursor := c }.emit (token name))

def tag (l : Layout) : Option Layout := do
  let l ← l.saveCandidate
  let (token, c) ← readTag l.inFlow l.cursor
  some ({ l.allowKey false with cursor := c }.emit token)

def lines (literal : Bool) (l : Layout) : Option Layout := do
  let l ← l.dropCandidate
  let (text, c) ← Block.read literal l.floor (l.cursor.advance 1)
  let style := if literal then ScalarStyle.literal else .folded
  some ({ l.allowKey true with cursor := c }.emit (.scalar style (String.ofList text)))

def quoted (quote : Char) (l : Layout) : Option Layout := do
  let l ← l.saveCandidate
  let (text, c) ← Quoted.read quote (l.cursor.rest.length + 1) (l.cursor.advance 1) []
  some ({ l.allowKey false with cursor := c }.emit (.scalar .quoted (String.ofList text)))

/-- A plain scalar. After a line break there may be a key again. -/
def plain (l : Layout) : Option Layout := do
  let l ← l.saveCandidate
  let (text, gap, c) ←
    Plain.read l.inFlow l.floor (l.cursor.rest.length + 1) l.cursor Gap.none []
  some ({ l.allowKey gap.hasBreak with cursor := c }.emit (.scalar .plain (String.ofList text)))

/-- The token that starts with a character. -/
def next (ch : Char) (l : Layout) : Option Layout :=
  let c := l.cursor
  let alone (mark : Char) := l.inFlow && c.startsWith mark || c.atMark mark
  if c.column == 0 && ch == '%' then l.directive
  else if c.atTriple '-' then l.marker .documentStart
  else if c.atTriple '.' then l.marker .documentEnd
  else if ch == '[' then l.openBracket .flowSequenceStart
  else if ch == '\x7b' then l.openBracket .flowMappingStart
  else if ch == ']' then l.closeBracket .flowSequenceEnd
  else if ch == '\x7d' then l.closeBracket .flowMappingEnd
  else if ch == ',' then l.comma
  else if c.atMark '-' then l.dash
  else if alone '?' then l.questionMark
  else if alone ':' then l.colon
  else if ch == '*' then l.named .alias
  else if ch == '&' then l.named .anchor
  else if ch == '!' then l.tag
  else if ch == '|' && !l.inFlow then l.lines true
  else if ch == '>' && !l.inFlow then l.lines false
  else if ch == Quoted.singleQuote || ch == Quoted.doubleQuote then l.quoted ch
  else if Plain.starts l.inFlow c.rest then l.plain
  else none

/-- Adds the tokens up to the end of the text. -/
def run : Nat → Layout → Option Layout
  | 0, _ => none
  | fuel + 1, l => do
    let l ← (l.skipToToken (l.cursor.rest.length + 1)).dropStale
    match l.cursor.rest with
    | [] => (l.closeBlocks 0).dropCandidate
    | ch :: _ => do
      let l ← (l.closeBlocks (l.cursor.column + 1)).next ch
      run fuel l

end Layout

/-- The tokens of a text. -/
def tokens? (text : String) : Option (List Token) :=
  let cs := text.toList
  if cs.all isPrintable then
    (Layout.run (cs.length + 1) (Layout.start cs)).map (·.tokens.reverse)
  else none

end SchemaPipeline.Yaml
