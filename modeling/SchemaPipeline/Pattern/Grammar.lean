import SchemaPipeline.Pattern.Bracket

/-!
# The plain grammar

Whether a text is a pattern of the plain grammar, which has no way to look around a place and none
to refer back to a group. Of several faults the first one counts. A text that looks around is
checked no further than to the place where it does.

The open groups are kept on a stack, the innermost first. Each piece has a depth, which is how many
groups, sets, repetitions, sequences and choices there are around its innermost character; it may
not be too great.
-/

namespace SchemaPipeline.Pattern

/-- Whether a name may go on with a character. -/
def isNameSign (c : Char) : Bool :=
  c == '_' || c == '.' || c == '[' || c == ']' ||
    (CharSet.property? "alphabetic".toList).any (·.contains c) ||
    (CharSet.category? ['n']).any (·.contains c)

/-- Whether a name may start with a character. -/
def isNameStart (c : Char) : Bool :=
  c == '_' || (CharSet.property? "alphabetic".toList).any (·.contains c)

/-! ## Depth -/

def greatest (ns : List Nat) : Nat := ns.foldl max 0

/-- The depth of pieces that make up one; a single one needs nothing around it. -/
def depthOf (ns : List Nat) : Nat :=
  match ns with
  | [n] => n
  | [] => 0
  | _ => greatest ns + 1

def greatestDepth : Nat := 250

/-! ## Open groups -/

/-- A group that is not closed yet, or the whole text: the depths of its earlier alternatives, and
those of the pieces since, newest first. Pieces that only set flags have no depth. Blanks count
after it as they did before. -/
structure OpenGroup where
  alternatives : List Nat
  pieces : List (Option Nat)
  wasExtended : Bool

namespace OpenGroup

def start (isExtended : Bool) : OpenGroup := ⟨[], [], isExtended⟩

def add (g : OpenGroup) (piece : Option Nat) : OpenGroup := { g with pieces := piece :: g.pieces }

/-- The depth of the pieces since the last alternative. -/
def tailDepth (g : OpenGroup) : Nat := depthOf (g.pieces.map fun p => p.getD 0)

def turn (g : OpenGroup) : OpenGroup := ⟨g.tailDepth :: g.alternatives, [], g.wasExtended⟩

def depth (g : OpenGroup) : Nat := depthOf (g.tailDepth :: g.alternatives)

/-- Repeats the last piece, if there is one that can be. -/
def repeatLast (g : OpenGroup) : Checked OpenGroup :=
  match g.pieces with
  | some depth :: pieces => .ok { g with pieces := some (depth + 1) :: pieces }
  | _ => .error .malformed

end OpenGroup

/-! ## Flags -/

/-- What has been read of the flags of a group. -/
structure FlagState where
  seen : List Char
  isNegated : Bool
  isDangling : Bool
  extended : Option Bool

def flagLetters : List Char := ['i', 'm', 's', 'U', 'u', 'R', 'x']

/-- The flags up to the colon or the parenthesis that ends them, which stays. -/
def readFlags (s : FlagState) : List Char → Checked (FlagState × List Char)
  | [] => .error .malformed
  | c :: cs =>
    if c = ':' ∨ c = ')' then
      if s.isDangling then .error .malformed else .ok (s, c :: cs)
    else if c = '-' then
      if s.isNegated then .error .malformed
      else readFlags { s with isNegated := true, isDangling := true } cs
    else if flagLetters.contains c && !s.seen.contains c then
      let extended := if c = 'x' then some (!s.isNegated) else s.extended
      readFlags ⟨c :: s.seen, s.isNegated, false, extended⟩ cs
    else .error .malformed

/-! ## Counts -/

/-- A number with the blanks before and after it, and what comes next. -/
def readDecimal (m : Manner) (cs : List Char) : Checked (Option Nat × List Char) :=
  let rec digits (fuel : Nat) (cs : List Char) : List Char × List Char :=
    match fuel, cs with
    | fuel + 1, c :: rest =>
      if c.isDigit then
        let (ds, after) := digits fuel (m.skip rest)
        (c :: ds, after)
      else ([], c :: rest)
    | _, cs => ([], cs)
  let (ds, rest) := digits cs.length (cs.dropWhile Text.isBlank)
  let rest := rest.dropWhile Text.isBlank
  if ds.isEmpty then .ok (none, rest)
  else
    let n := ds.foldl (fun n c => n * 10 + (c.toNat - '0'.toNat)) 0
    if n < 4294967296 then .ok (some n, m.skip rest) else .error .malformed

/-- What follows the opening brace of a count. -/
def dropCount (m : Manner) (cs : List Char) : Checked (List Char) := do
  let (lo, rest) ← readDecimal m (m.skip cs)
  let dropMark := fun cs : List Char =>
    match m.skip cs with
    | '?' :: after => after
    | after => after
  match lo, rest with
  | some _, '\x7d' :: after => return dropMark after
  | some lo, ',' :: after =>
    match m.skip after with
    | '\x7d' :: after => return dropMark after
    | signs =>
      let (hi, rest) ← readDecimal m signs
      match hi, rest with
      | some hi, '\x7d' :: after => if lo ≤ hi then return dropMark after else throw .malformed
      | _, _ => throw .malformed
  | _, _ => throw .malformed

/-! ## Steps -/

/-- A text on its way: the open groups around the one at hand, the group, whether blanks count for
nothing, the names of the groups so far, and whether the escape of the character that rings stood
outside brackets. -/
structure Progress where
  outer : List OpenGroup
  group : OpenGroup
  isExtended : Bool
  names : List (List Char)
  rings : Bool

namespace Progress

def manner (p : Progress) : Manner := ⟨.ascii, false, p.isExtended⟩

def add (p : Progress) (piece : Option Nat) : Progress := { p with group := p.group.add piece }

/-- Opens a group; the blanks in it count as asked for, or as before. -/
def enter (p : Progress) (extended : Option Bool) : Progress :=
  { p with
    outer := p.group :: p.outer
    group := .start p.isExtended
    isExtended := extended.getD p.isExtended }

/-- Closes the group at hand. -/
def leave (p : Progress) : Checked Progress :=
  match p.outer with
  | [] => .error .malformed
  | parent :: outer =>
    .ok { p with
      outer := outer
      group := parent.add (some (p.group.depth + 1))
      isExtended := p.group.wasExtended }

def lookArounds : List (List Char) := ["?=".toList, "?!".toList, "?<=".toList, "?<!".toList]

/-- A name up to its closing angle. -/
def enterNamed (p : Progress) (cs : List Char) : Checked (Progress × List Char) :=
  let name := cs.takeWhile (· != '>')
  match name, cs.drop name.length with
  | c :: more, _ :: rest =>
    if isNameStart c && more.all isNameSign && !p.names.contains name then
      .ok ({ p.enter none with names := name :: p.names }, rest)
    else .error .malformed
  | _, _ => .error .malformed

/-- What follows an opening parenthesis. -/
def readOpening (p : Progress) (cs : List Char) : Checked (Progress × List Char) :=
  let cs := p.manner.skip cs
  if lookArounds.any (·.isPrefixOf cs) then .error .lookAround
  else
    match cs with
    | '?' :: 'P' :: '<' :: rest => p.enterNamed rest
    | '?' :: '<' :: rest => p.enterNamed rest
    | '?' :: rest => do
      let (flags, rest) ← readFlags ⟨[], false, false, none⟩ rest
      match rest with
      | ':' :: rest => return (p.enter flags.extended, rest)
      | _ =>
        if flags.seen.isEmpty then throw .malformed
        else
          let after := { p.add none with isExtended := flags.extended.getD p.isExtended }
          return (after, rest.drop 1)
    | _ => .ok (p.enter none, cs)

/-- Repeats the last piece; the mark that makes a repetition reluctant follows at once. -/
def repeatLast (p : Progress) (rest : List Char) : Checked (Progress × List Char) := do
  let group ← p.group.repeatLast
  return ({ p with group := group }, if rest.head? = some '?' then rest.drop 1 else rest)

/-- Reads one piece or sign; blanks before it are gone. -/
def step (p : Progress) (c : Char) (rest : List Char) : Checked (Progress × List Char) :=
  match c with
  | '(' => p.readOpening rest
  | ')' => p.leave.map (·, rest)
  | '|' => .ok ({ p with group := p.group.turn }, rest)
  | '[' => (readSet p.manner rest).map fun (_, depth, after) => (p.add (some depth), after)
  | '?' => p.repeatLast rest
  | '*' => p.repeatLast rest
  | '+' => p.repeatLast rest
  | '\x7b' => do
    let group ← p.group.repeatLast
    return ({ p with group := group }, ← dropCount p.manner rest)
  | '\\' => (readEscape p.manner rest).map fun (escaped, after) =>
    ({ p.add (some 0) with rings := p.rings || escaped matches .bell }, after)
  | _ => .ok (p.add (some 0), rest)

end Progress

def runGrammar : Nat → Progress → List Char → Checked Unit
  | 0, _, _ => .error .malformed
  | fuel + 1, p, cs =>
    match p.manner.skip cs with
    | [] =>
      if p.outer.isEmpty && p.group.depth ≤ greatestDepth && !p.rings then .ok ()
      else .error .malformed
    | c :: rest =>
      match p.step c rest with
      | .ok (p, after) => runGrammar fuel p after
      | .error fault => .error fault

/-- Whether a text is a pattern of the plain grammar. -/
def checkGrammar (cs : List Char) : Checked Unit :=
  runGrammar (cs.length + 1) ⟨[], .start false, false, [], false⟩ cs

/-! ## Control characters -/

/-- A text without the escape of a control character that has so many characters from it on. -/
def writeControl (cs : List Char) (left : Nat) : List Char :=
  let before := cs.take (cs.length - left)
  match cs.drop before.length with
  | _ :: _ :: letter :: after => before ++ Char.ofNat (letter.toNat % 32) :: after
  | _ => cs

/-- Writes control characters as themselves until none is left before the first other fault. The
result has the text as it is then, and whether it belongs to the plain grammar. -/
def settleControls : Nat → List Char → Option (List Char × Bool)
  | 0, _ => none
  | fuel + 1, cs =>
    match checkGrammar cs with
    | .ok () => some (cs, true)
    | .error .lookAround => some (cs, false)
    | .error (.control left) => settleControls fuel (writeControl cs left)
    | .error .malformed => none

end SchemaPipeline.Pattern
