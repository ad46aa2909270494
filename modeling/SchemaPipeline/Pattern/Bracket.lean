import SchemaPipeline.Pattern.Escape

/-!
# Sets in brackets

A set is written as its members between brackets, after `^` as all but them. Members are characters,
ranges, sets in brackets and sets with names; two `&`, `-` or `~` make one set of what is before and
after them. A closing bracket or hyphens that come first are members.

Sets in sets are kept on a stack of the open ones, the innermost first. A set that has a name which
nobody knows is well written, but it is no set.
-/

namespace SchemaPipeline.Pattern

/-- What makes one set out of two. -/
inductive SetOperator where
  | inter
  | minus
  | differ
deriving DecidableEq, Repr

def SetOperator.apply (op : SetOperator) (a b : CharSet) : CharSet :=
  match op with
  | .inter => .inter a b
  | .minus => .inter a (.compl b)
  | .differ => .union (.inter a (.compl b)) (.inter b (.compl a))

/-- An open bracket: the operator it has come past with the set before it, and the members since. -/
structure Bracket where
  isNegated : Bool
  left : Option (SetOperator × Option CharSet)
  members : Option CharSet

namespace Bracket

def both (f : CharSet → CharSet → CharSet) (a b : Option CharSet) : Option CharSet :=
  match a, b with
  | some a, some b => some (f a b)
  | _, _ => none

def add (b : Bracket) (set : Option CharSet) : Bracket :=
  { b with members := both .union b.members set }

def addChar (b : Bracket) (c : Char) : Bracket := b.add (some (.single c))

/-- What the operator makes of the two sides, or the members if there is none. -/
def content (ignoresCase : Bool) (b : Bracket) : Option CharSet :=
  match b.left with
  | none => b.members
  | some (op, left) =>
    both (fun x y => op.apply (x.caseless ignoresCase) (y.caseless ignoresCase)) left b.members

/-- Goes past an operator; what is before it is one side. -/
def operate (ignoresCase : Bool) (op : SetOperator) (b : Bracket) : Bracket :=
  ⟨b.isNegated, some (op, b.content ignoresCase), some .empty⟩

/-- The set that a closing bracket ends. -/
def close (ignoresCase : Bool) (b : Bracket) : Option CharSet :=
  (b.content ignoresCase).map fun set => (set.caseless ignoresCase).signed (!b.isNegated)

end Bracket

/-! ## Opening -/

/-- Takes the hyphens that come first for members. -/
def takeHyphens (m : Manner) : Nat → Bracket → List Char → Bracket × List Char
  | 0, b, cs => (b, cs)
  | fuel + 1, b, cs =>
    match cs with
    | '-' :: rest => takeHyphens m fuel (b.addChar '-') (m.skip rest)
    | _ => (b, cs)

/-- What follows an opening bracket, up to the first ordinary member. -/
def openBracket (m : Manner) (cs : List Char) : Bracket × List Char :=
  let cs := m.skip cs
  let (isNegated, cs) :=
    match cs with
    | '^' :: rest => (true, m.skip rest)
    | _ => (false, cs)
  let start : Bracket := ⟨isNegated, none, some .empty⟩
  match cs with
  | ']' :: rest => (start.addChar ']', m.skip rest)
  | _ => takeHyphens m (cs.length + 1) start cs

/-! ## Members -/

/-- The set of a name between colons, when an opening bracket has been read. -/
def readPosix (m : Manner) (cs : List Char) : Option (Option CharSet × List Char) :=
  match cs with
  | ':' :: rest =>
    let (wanted, rest) :=
      match rest with
      | '^' :: after => (false, after)
      | _ => (true, rest)
    match Text.spanUntil (· == ':') rest with
    | (name, ':' :: ']' :: after) =>
      (CharSet.posix? (String.ofList name)).map fun set =>
        (some ((set.caseless m.ignoresCase).signed wanted), after)
    | _ => none
  | _ => none

/-- A single member, escaped or not. -/
def readMember (m : Manner) (cs : List Char) : Checked (Escaped × List Char) :=
  match cs with
  | [] => .error .malformed
  | '\\' :: rest => readEscape m rest
  | c :: rest => .ok (.char c, rest)

/-- The character that an end of a range is. -/
def Escaped.char? : Escaped → Option Char
  | .char c => some c
  | .bell => some '\x07'
  | _ => none

/-- The set that a member on its own is. -/
def Escaped.toSet : Escaped → Checked (Option CharSet)
  | .char c => .ok (some (.single c))
  | .bell => .ok (some (.single '\x07'))
  | .set s => .ok s
  | .place => .error .malformed

/-- A member or a range of them. -/
def readMembers (m : Manner) (cs : List Char) : Checked (Option CharSet × List Char) := do
  let (a, rest) ← readMember m cs
  let rest := m.skip rest
  match rest with
  | '-' :: after =>
    let after := m.skip after
    match after with
    | '-' :: _ => return (← a.toSet, rest)
    | ']' :: _ => return (← a.toSet, rest)
    | _ =>
      let (b, rest) ← readMember m after
      match a.char?, b.char? with
      | some lo, some hi =>
        if lo ≤ hi then return (some (.between lo hi), rest) else throw .malformed
      | _, _ => throw .malformed
  | _ => return (← a.toSet, rest)

/-! ## Whole sets -/

/-- Goes on within open brackets until the last one is closed. The result has the greatest number
of brackets that were open at once. -/
def readBrackets (m : Manner) : Nat → Nat → List Bracket → List Char →
    Checked (Option CharSet × Nat × List Char)
  | 0, _, _, _ => .error .malformed
  | _ + 1, _, [], _ => .error .malformed
  | fuel + 1, depth, b :: outer, cs =>
    let operate := fun op rest =>
      readBrackets m fuel depth (b.operate m.ignoresCase op :: outer) rest
    match m.skip cs with
    | [] => .error .malformed
    | '[' :: rest =>
      match readPosix m rest with
      | some (set, rest) => readBrackets m fuel depth (b.add set :: outer) rest
      | none =>
        let (inner, rest) := openBracket m rest
        readBrackets m fuel (max depth (outer.length + 2)) (inner :: b :: outer) rest
    | ']' :: rest =>
      let set := b.close m.ignoresCase
      match outer with
      | [] => .ok (set, depth, rest)
      | parent :: outer => readBrackets m fuel depth (parent.add set :: outer) rest
    | '&' :: '&' :: rest => operate .inter rest
    | '-' :: '-' :: rest => operate .minus rest
    | '~' :: '~' :: rest => operate .differ rest
    | signs => do
      let (set, rest) ← readMembers m signs
      readBrackets m fuel depth (b.add set :: outer) rest

/-- A set whose opening bracket has been read. -/
def readSet (m : Manner) (cs : List Char) : Checked (Option CharSet × Nat × List Char) :=
  let (b, rest) := openBracket m cs
  readBrackets m (rest.length + 1) 1 [b] rest

end SchemaPipeline.Pattern
