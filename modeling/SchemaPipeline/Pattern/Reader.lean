import SchemaPipeline.Pattern.Commitment
import SchemaPipeline.Pattern.Grammar
import SchemaPipeline.Text.Utf8

/-!
# Reading patterns

The pattern that a text writes. Of the plain grammar it has to be a pattern, or look around a place
before it breaks a rule; then it is read anew, with more rules in one respect and fewer in others.
What looks around may also refer back to groups, and its letters after a backslash stand for sets of
Unicode.

A sign that can repeat needs a piece that takes characters or has parentheses of its own. After a
repetition, `?` makes it reluctant and `+` makes it keep what it took; a brace there stands for
itself, and so does one that opens no count. Flags hold up to the end of the text, unless they
belong to a group.

The reader is given as much fuel as the text has characters, three times over: each group, each
alternative and each piece that it enters has taken a character, or follows one that has.
-/

namespace SchemaPipeline.Pattern

open CharSet (Meaning)

/-! ## What has been read -/

/-- A piece, with what a repetition has to know about it. -/
inductive Piece where
  /-- Nothing at all. -/
  | nothing
  /-- A pattern that takes no character, so that it cannot be repeated. -/
  | still (p : Pattern)
  | plain (p : Pattern)

namespace Piece

def one (set : CharSet) : Piece := .plain (.one set)

def pattern : Piece → Pattern
  | .nothing => .empty
  | .still p => p
  | .plain p => p

/-- Pieces one after the other; what is nothing is left out. -/
def ofList (pieces : List Piece) : Piece :=
  match pieces.filter fun p => !(p matches .nothing) with
  | [] => .nothing
  | [p] => p
  | ps => .plain (ps.foldr (fun p rest => .seq p.pattern rest) .empty)

/-- Pieces to choose from, of which there is at least one. -/
def choose (first : Piece) (others : List Piece) : Piece :=
  if others.isEmpty then first
  else .plain ((first :: others).foldr (fun p rest => .alt p.pattern rest) .never)

end Piece

structure Flags where
  ignoresCase : Bool
  isMultiline : Bool
  takesNewlines : Bool
  isReluctant : Bool
  isExtended : Bool
deriving DecidableEq, Repr

/-- What has been read so far: the rest of the text, the flags, how many groups have been opened,
the names among them, the groups that are referred to, and whether any is by its number. -/
structure Reading where
  rest : List Char
  flags : Flags
  groups : Nat
  names : List (List Char × Nat)
  used : List Nat
  usesNumbers : Bool

/-- What is known of the text as a whole: what its letters stand for, and its size in bytes. -/
structure Source where
  meaning : Meaning
  size : Nat

namespace Reading

def take (r : Reading) (cs : List Char) : Reading := { r with rest := cs }

/-- What characters of a set in brackets are read by; blanks count there in any case. -/
def manner (s : Source) (r : Reading) : Manner := ⟨s.meaning, r.flags.ignoresCase, false⟩

/-- A character, or one that differs from it in case only if case is to be left out. -/
def char (r : Reading) (c : Char) : Piece :=
  .plain (.one ((CharSet.single c).caseless r.flags.ignoresCase))

end Reading

/-! ## Blanks and remarks -/

def isSkipped (c : Char) : Bool := c == ' ' || c == '\r' || c == '\n' || c == '\t'

/-- The text after a remark in parentheses. -/
def dropRemark : Nat → List Char → Option (List Char)
  | 0, _ => none
  | _ + 1, [] => none
  | _ + 1, ')' :: rest => some rest
  | fuel + 1, '\\' :: rest => dropRemark fuel (rest.drop 1)
  | fuel + 1, _ :: rest => dropRemark fuel rest

/-- Drops remarks, and in the extended form blanks and comments. -/
def dropIdle (isExtended : Bool) : Nat → List Char → Option (List Char)
  | 0, cs => some cs
  | fuel + 1, cs =>
    match cs with
    | '(' :: '?' :: '#' :: rest =>
      (dropRemark (rest.length + 1) rest).bind (dropIdle isExtended fuel)
    | c :: rest =>
      if isExtended && c == '#' then
        dropIdle isExtended fuel ((rest.dropWhile (· != '\n')).drop 1)
      else if isExtended && isSkipped c then dropIdle isExtended fuel rest
      else some cs
    | [] => some []

def Reading.skip (r : Reading) : Option Reading :=
  (dropIdle r.flags.isExtended (r.rest.length + 1) r.rest).map r.take

/-! ## Escapes -/

/-- The character that a letter after a backslash names. -/
def namedChar? : Char → Option Char
  | 'a' => some '\x07'
  | 'e' => some '\x1b'
  | 'f' => some '\x0c'
  | 'n' => some '\n'
  | 'r' => some '\r'
  | 't' => some '\t'
  | 'v' => some '\x0b'
  | _ => none

/-- A character by its number, in so many digits or in braces, which hold at most eight. -/
def readNumber (width : Nat) (cs : List Char) : Option (Char × List Char) :=
  match cs with
  | '\x7b' :: rest =>
    match Text.splitFirst '\x7d' rest with
    | some (ds, after) => if ds.length ≤ 8 then (hexChar? ds).map (·, after) else none
    | none => none
  | _ =>
    let ds := cs.take width
    if ds.length = width then (hexChar? ds).map (·, cs.drop width) else none

def numberWidth? : Char → Option Nat
  | 'x' => some 2
  | 'u' => some 4
  | 'U' => some 8
  | _ => none

/-- What stands for itself or for another character after a backslash. -/
def readEscapedChar (c : Char) (rest : List Char) : Option (Char × List Char) :=
  match numberWidth? c, namedChar? c with
  | some width, _ => readNumber width rest
  | none, some d => some (d, rest)
  | none, none => if c.isAlpha then none else some (c, rest)

/-- The text of a property: a letter, or a text in braces. -/
def cutProperty (cs : List Char) : Option (List Char × List Char) :=
  match cs with
  | [] => none
  | '\x7b' :: rest =>
    (Text.splitFirst '\x7d' rest).map fun (name, after) =>
      ('\x7b' :: name ++ ['\x7d'], after)
  | c :: rest => some ([c], rest)

def anchorOf? : Char → Option Anchor
  | 'A' => some .textStart
  | 'z' => some .textEnd
  | 'b' => some .wordEdge
  | 'B' => some .notWordEdge
  | '<' => some .wordStart
  | '>' => some .wordEnd
  | _ => none

/-! ## Sets in brackets -/

def isSpecial (c : Char) : Bool := "\\.+*?()|[]\x7b\x7d^$#&-~".toList.contains c

/-- A character of a set as it has to be written there. -/
def spell (c : Char) : List Char := if isSpecial c then ['\\', c] else [c]

/-- An escape in a set, written with the signs of the plain grammar. -/
def spellEscape (cs : List Char) : Option (List Char × List Char) :=
  match cs with
  | [] => none
  | 'h' :: rest => some ("[0-9A-Fa-f]".toList, rest)
  | 'H' :: rest => some ("[^0-9A-Fa-f]".toList, rest)
  | 'b' :: rest => some (['\x08'], rest)
  | c :: rest =>
    if c.isDigit then none
    else if ['d', 's', 'w'].contains c.toLower then some (['\\', c], rest)
    else if c.toLower = 'p' then
      (cutProperty rest).map fun (name, after) => ('\\' :: c :: name, after)
    else if ['k', 'A', 'z', 'B', 'K', 'G'].contains c then some (spell c, rest)
    else (readEscapedChar c rest).map fun (d, after) => (spell d, after)

/-- The text of a set, up to the bracket that closes the first of so many open ones. -/
def cutBrackets : Nat → Nat → List Char → Option (List Char × List Char)
  | 0, _, _ => none
  | fuel + 1, depth, cs =>
    let go := fun (depth : Nat) (spelled rest : List Char) =>
      (cutBrackets fuel depth rest).map fun (text, after) => (spelled ++ text, after)
    match cs with
    | [] => none
    | '\\' :: rest => (spellEscape rest).bind fun (spelled, after) => go depth spelled after
    | '[' :: rest => go (depth + 1) ['['] rest
    | ']' :: rest => if depth ≤ 1 then some ([']'], rest) else go (depth - 1) [']'] rest
    | c :: rest => go depth [c] rest

/-- The text of a set after its opening bracket. A closing bracket that comes first belongs to
it. -/
def cutSet (cs : List Char) : Option (List Char × List Char) :=
  let (mark, cs) := if cs.head? = some '^' then (['^'], cs.drop 1) else ([], cs)
  let (first, cs) := if cs.head? = some ']' then ([']'], cs.drop 1) else ([], cs)
  (cutBrackets (cs.length + 1) 1 cs).map fun (text, rest) => (mark ++ first ++ text, rest)

def Reading.readSet (s : Source) (r : Reading) (cs : List Char) : Option (Piece × Reading) := do
  let (text, rest) ← cutSet cs
  match Pattern.readSet (r.manner s) text with
  | .ok (some set, _, []) => some (.one set, r.take rest)
  | _ => none

/-! ## References -/

def isGroupSign (c : Char) : Bool :=
  c == '_' || (CharSet.property? "alphabetic".toList).any (·.contains c) ||
    (CharSet.category? ['n']).any (·.contains c)

/-- A name with signs around it. -/
def readName (opening closing : List Char) (cs : List Char) : Option (List Char × List Char) :=
  if opening.isPrefixOf cs then
    let cs := cs.drop opening.length
    let name := cs.takeWhile isGroupSign
    let rest := cs.drop name.length
    if !name.isEmpty && closing.isPrefixOf rest then some (name, rest.drop closing.length) else none
  else none

def decimal? (ds : List Char) : Option Nat :=
  if ds.isEmpty || !ds.all Char.isDigit then none
  else some (ds.foldl (fun n c => n * 10 + (c.toNat - '0'.toNat)) 0)

namespace Reading

/-- A reference to a group that has been opened; the whole text counts as one. -/
def again (r : Reading) (n : Nat) (rest : List Char) : Option (Piece × Reading) :=
  if n ≤ r.groups then some (.plain (.again n), { r with rest := rest, used := n :: r.used })
  else none

def readNumberedReference (s : Source) (r : Reading) (cs : List Char) :
    Option (Piece × Reading) := do
  let ds := cs.takeWhile Char.isDigit
  let n ← decimal? ds
  let marked := { r with usesNumbers := true }
  if n < s.size / 2 then marked.again n (cs.drop ds.length) else none

def readNamedReference (r : Reading) (opening closing cs : List Char) :
    Option (Piece × Reading) := do
  let (name, rest) ← readName opening closing cs
  let n ← (r.names.lookup name).orElse fun _ => decimal? name
  r.again n rest

/-- What follows a backslash. -/
def readEscape (s : Source) (r : Reading) (cs : List Char) : Option (Piece × Reading) :=
  match cs with
  | [] => none
  | 'k' :: '\'' :: rest => r.readNamedReference [] ['\''] rest
  | 'k' :: rest => r.readNamedReference ['<'] ['>'] rest
  | 'h' :: rest => some (.one .hexDigits, r.take rest)
  | 'H' :: rest => some (.one (.compl .hexDigits), r.take rest)
  | 'K' :: rest => some (.plain .empty, r.take rest)
  | 'G' :: rest => some (.plain (.anchor .textStart), r.take rest)
  | c :: rest =>
    if c.isDigit then r.readNumberedReference s cs
    else
      match anchorOf? c, CharSet.ofLetter? s.meaning r.flags.ignoresCase c with
      | some place, _ =>
        if c.toLower = 'b' && rest.head? = some '\x7b' then none
        else some (.still (.anchor place), r.take rest)
      | none, some set => some (.one set, r.take rest)
      | none, none =>
        if c.toLower = 'p' then do
          let (_, after) ← cutProperty rest
          let (set, _) ← readProperty (r.manner s) (c = 'p') rest
          some (.one (← set), r.take after)
        else (readEscapedChar c rest).map fun (d, after) => (r.char d, r.take after)

end Reading

/-! ## Repetitions -/

/-- The least and the greatest number of a count whose opening brace has been read. -/
def readCount (isExtended : Bool) (cs : List Char) : Option ((Nat × Option Nat) × List Char) := do
  let skip := fun cs : List Char => dropIdle isExtended (cs.length + 1) cs
  let cs ← skip cs
  let lo := cs.takeWhile Char.isDigit
  let least ← if lo.isEmpty && cs.head? = some ',' then some 0 else decimal? lo
  match ← skip (cs.drop lo.length) with
  | '\x7d' :: rest => some ((least, some least), rest)
  | ',' :: rest =>
    let cs ← skip rest
    let hi := cs.takeWhile Char.isDigit
    match ← skip (cs.drop hi.length) with
    | '\x7d' :: after => some ((least, decimal? hi), after)
    | _ => none
  | _ => none

/-- The numbers of a repetition, if one follows. -/
def readRepetition (isExtended : Bool) : List Char → Option ((Nat × Option Nat) × List Char)
  | '?' :: rest => some ((0, some 1), rest)
  | '*' :: rest => some ((0, none), rest)
  | '+' :: rest => some ((1, none), rest)
  | '\x7b' :: rest => readCount isExtended rest
  | _ => none

/-- A piece with its repetition. -/
def repeatPiece (piece : Piece) (r : Reading) : Option (Piece × Reading) := do
  let r ← r.skip
  match readRepetition r.flags.isExtended r.rest with
  | none => some (piece, r)
  | some ((lo, hi), rest) =>
    match piece with
    | .plain p =>
      if hi.all (lo ≤ ·) then
        let r ← (r.take rest).skip
        let (isReluctant, rest) :=
          if r.rest.head? = some '?' then (true, r.rest.drop 1) else (false, r.rest)
        let repeated := Pattern.repeated lo hi (isReluctant == r.flags.isReluctant) p
        if rest.head? = some '+' then some (.plain (.firstWay repeated), r.take (rest.drop 1))
        else some (.plain repeated, r.take rest)
      else none
    | _ => none

/-! ## Looking back -/

/-- How many characters all matches of a pattern have. -/
def size? : Pattern → Option Nat
  | .empty => some 0
  | .never => none
  | .one _ => some 1
  | .anchor _ => some 0
  | .seq a b =>
    match a.size?, b.size? with
    | some m, some n => some (m + n)
    | _, _ => none
  | .alt a .never => a.size?
  | .alt a b =>
    match a.size?, b.size? with
    | some m, some n => if m = n then some m else none
    | _, _ => none
  | .repeated lo hi _ p => if hi = some lo then p.size?.map (· * lo) else none
  | .onward _ _ => none
  | .group _ p => p.size?
  | .again _ => none
  | .firstWay p => p.size?
  | .ahead _ _ => some 0
  | .behind _ _ _ => some 0

/-- The pieces to choose from. -/
def choices : Pattern → List Pattern
  | .alt a b => a :: b.choices
  | _ => []

/-- Looks back for a pattern. All its matches have the same size, or all those of each alternative;
none of them is before a place if each alternative is not. -/
def lookBack (wanted : Bool) (p : Pattern) : Option Pattern :=
  match p.size? with
  | some n => some (.behind wanted n p)
  | none =>
    if p.choices.isEmpty then none
    else
      (p.choices.mapM fun q => (size? q).map (.behind wanted · q)).map fun parts =>
        if wanted then parts.foldr .alt .never else parts.foldr .seq .empty

/-! ## Groups -/

/-- What the signs after an opening parenthesis make of the group. -/
inductive Opening where
  | ahead (wanted : Bool)
  | behind (wanted : Bool)
  | firstWay
  | counted (name : Option (List Char))

/-- The kind of a group that does not set flags, and its text. -/
def readOpening (cs : List Char) : Option (Opening × List Char) :=
  match cs with
  | '?' :: '=' :: rest => some (.ahead true, rest)
  | '?' :: '!' :: rest => some (.ahead false, rest)
  | '?' :: '<' :: '=' :: rest => some (.behind true, rest)
  | '?' :: '<' :: '!' :: rest => some (.behind false, rest)
  | '?' :: '>' :: rest => some (.firstWay, rest)
  | '?' :: '<' :: rest =>
    (readName [] ['>'] rest).map fun (name, after) => (.counted (some name), after)
  | '?' :: 'P' :: '<' :: rest =>
    (readName [] ['>'] rest).map fun (name, after) => (.counted (some name), after)
  | '?' :: _ => none
  | _ => some (.counted none, cs)

def Opening.enter (o : Opening) (r : Reading) : Reading :=
  match o with
  | .counted name =>
    { r with
      groups := r.groups + 1
      names := (name.map (·, r.groups + 1)).toList ++ r.names }
  | _ => r

/-- What becomes of the content of a group with a number. -/
def Opening.wrap (o : Opening) (n : Nat) (content : Piece) : Option Piece :=
  let p := content.pattern
  match o with
  | .ahead wanted => some (.still (.ahead wanted p))
  | .behind wanted => (lookBack wanted p).map .still
  | .firstWay => some (.plain (.firstWay p))
  | .counted _ => some (.plain (.group n p))

def setFlag (f : Flags) (value : Bool) : Char → Option Flags
  | 'i' => some { f with ignoresCase := value }
  | 'm' => some { f with isMultiline := value }
  | 's' => some { f with takesNewlines := value }
  | 'U' => some { f with isReluctant := value }
  | 'x' => some { f with isExtended := value }
  | 'u' => if value then some f else none
  | _ => none

/-- The flags up to the colon or the parenthesis that ends them, which stays. Not any sign, and a
hyphen that is the last one, are no flags. -/
def readFlagList (value wasHyphen : Bool) : Nat → Reading → Option Reading
  | 0, _ => none
  | fuel + 1, r => do
    let r ← r.skip
    match r.rest with
    | [] => none
    | c :: rest =>
      if c = ':' ∨ c = ')' then if wasHyphen then none else some r
      else if c = '-' then
        if value then readFlagList false true fuel (r.take rest) else none
      else readFlagList value false fuel { r with rest := rest, flags := ← setFlag r.flags value c }

def dropClosing (r : Reading) : Option Reading := do
  let r ← r.skip
  match r.rest with
  | ')' :: rest => some (r.take rest)
  | _ => none

def greatestNesting : Nat := 63

/-! ## Pieces -/

mutual

/-- Alternatives up to a closing parenthesis or the end. A text that is no choice and refers to
groups by number must not have named any. -/
def readAlternatives (s : Source) (depth : Nat) : Nat → Reading → Option (Piece × Reading)
  | 0, _ => none
  | fuel + 1, r => do
    let (first, r) ← readSequence s depth fuel [] r
    let r ← r.skip
    match r.rest with
    | '|' :: _ =>
      let (others, r) ← readOthers s depth fuel r
      some (first.choose others, r)
    | _ => if r.usesNumbers && !r.names.isEmpty then none else some (first, r)

def readOthers (s : Source) (depth : Nat) : Nat → Reading → Option (List Piece × Reading)
  | 0, _ => none
  | fuel + 1, r =>
    match r.rest with
    | '|' :: rest => do
      let (piece, r) ← readSequence s depth fuel [] (r.take rest)
      let (others, r) ← readOthers s depth fuel (← r.skip)
      some (piece :: others, r)
    | _ => some ([], r)

/-- Pieces up to one that takes no sign; the pieces so far are given from the last one. -/
def readSequence (s : Source) (depth : Nat) : Nat → List Piece → Reading → Option (Piece × Reading)
  | 0, _, _ => none
  | fuel + 1, before, r => do
    let (piece, next) ← readAtom s depth fuel r
    let (piece, next) ← repeatPiece piece next
    if next.rest.length = r.rest.length then some (Piece.ofList before.reverse, r)
    else readSequence s depth fuel (piece :: before) next

def readAtom (s : Source) (depth : Nat) : Nat → Reading → Option (Piece × Reading)
  | 0, _ => none
  | fuel + 1, r => do
    let r ← r.skip
    match r.rest with
    | [] => some (.nothing, r)
    | '.' :: rest =>
      some (.one (if r.flags.takesNewlines then .all else .notNewline), r.take rest)
    | '^' :: rest =>
      some (.still (.anchor (if r.flags.isMultiline then .lineStart else .textStart)), r.take rest)
    | '$' :: rest =>
      some (.still (.anchor (if r.flags.isMultiline then .lineEnd else .textEnd)), r.take rest)
    | '(' :: rest =>
      if depth < greatestNesting then readGroup s (depth + 1) fuel (r.take rest) else none
    | '\\' :: rest => r.readEscape s rest
    | '[' :: rest => r.readSet s rest
    | c :: rest =>
      if ['+', '*', '?', '|', ')'].contains c then some (.nothing, r)
      else some (r.char c, r.take rest)

/-- A group whose opening parenthesis has been read. -/
def readGroup (s : Source) (depth : Nat) : Nat → Reading → Option (Piece × Reading)
  | 0, _ => none
  | fuel + 1, r => do
    let r ← r.skip
    match r.rest with
    | '?' :: 'P' :: '=' :: rest => r.readNamedReference [] [')'] rest
    | '?' :: rest =>
      if rest.head?.any fun c => ['=', '!', '<', '>', 'P'].contains c then
        readBody s depth fuel r
      else
        let inner ← readFlagList true false (rest.length + 1) (r.take rest)
        match inner.rest with
        | ':' :: body =>
          let (piece, after) ← readAlternatives s depth fuel (inner.take body)
          let after ← dropClosing after
          some (piece, { after with flags := r.flags })
        | after =>
          if after.length = rest.length then none else some (.nothing, inner.take (after.drop 1))
    | _ => readBody s depth fuel r

/-- A group that sets no flags, from the signs that tell its kind. -/
def readBody (s : Source) (depth : Nat) : Nat → Reading → Option (Piece × Reading)
  | 0, _ => none
  | fuel + 1, r => do
    let (opening, body) ← readOpening r.rest
    let inner := opening.enter (r.take body)
    let (content, after) ← readAlternatives s depth fuel inner
    let after ← dropClosing after
    some (← opening.wrap inner.groups content, after)

end

/-! ## Whole patterns -/

/-- A pattern without the groups that nothing refers to. -/
def keepGroups (used : List Nat) : Pattern → Pattern
  | .empty => .empty
  | .never => .never
  | .one set => .one set
  | .anchor place => .anchor place
  | .seq a b => .seq (a.keepGroups used) (b.keepGroups used)
  | .alt a b => .alt (a.keepGroups used) (b.keepGroups used)
  | .repeated lo hi isGreedy p => .repeated lo hi isGreedy (p.keepGroups used)
  | .onward isGreedy p => .onward isGreedy (p.keepGroups used)
  | .group n p => if used.contains n then .group n (p.keepGroups used) else p.keepGroups used
  | .again n => .again n
  | .firstWay p => .firstWay (p.keepGroups used)
  | .ahead wanted p => .ahead wanted (p.keepGroups used)
  | .behind wanted size p => .behind wanted size (p.keepGroups used)

/-- How much room a pattern takes when its repetitions are written out. -/
def room : Pattern → Nat
  | .one (.range _ _) => 1
  | .one (.table _) => 640
  | .one (.compl _) => 13
  | .one _ => 2
  | .seq a b => a.room + b.room
  | .alt a .never => a.room
  | .alt a b => a.room + b.room + 1
  | .repeated lo hi _ p =>
    match hi with
    | some n => n * (p.room + 1)
    | none => (max lo 1) * (p.room + 1)
  | .onward _ p => p.room + 1
  | .group _ p => p.room
  | .firstWay p => p.room
  | .ahead _ p => p.room
  | .behind _ _ p => p.room
  | _ => 1

def greatestRoom : Nat := 327680

/-- The pattern that a text writes, if the letters after a backslash have a meaning. -/
def read? (meaning : Meaning) (cs : List Char) : Option Pattern := do
  let source : Source := ⟨meaning, (Utf8.encode cs).length⟩
  let start : Reading := ⟨cs, ⟨false, false, false, false, false⟩, 0, [], [], false⟩
  let (piece, r) ← readAlternatives source 0 (3 * cs.length + 3) start
  let p := piece.pattern.keepGroups r.used
  if r.rest.isEmpty && p.room ≤ greatestRoom then some p.uncommitted else none

/-- Whether a text looks like a pattern; one that looks around a place may be anything after it. -/
def isPatternText (s : String) : Bool := (settleControls (s.length + 1) s.toList).isSome

/-- The pattern that a text denotes. -/
def parse? (s : String) : Option Pattern :=
  match settleControls (s.length + 1) s.toList with
  | some (cs, isPlain) => read? (if isPlain then .ascii else .unicode) cs
  | none => none

end SchemaPipeline.Pattern
