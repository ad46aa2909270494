import SchemaPipeline.Pattern.NamedSet

/-!
# Patterns

Regular expressions over characters, and what they match. A match is described by its end and by
what its groups have matched on the way: the ends of the matches that start at a given place are
listed in the order in which they are tried. Where only the first way counts, as it does for a piece
that does not give back what it took, it is the head of the list.

An end is listed once, where it comes first. A repetition without a greatest number goes on after
its least one only where that moves it on, so that no text keeps it going for ever.
-/

namespace SchemaPipeline

/-- A place between characters. -/
inductive Anchor where
  | textStart
  | textEnd
  | lineStart
  | lineEnd
  | wordEdge
  | notWordEdge
  | wordStart
  | wordEnd
deriving Repr, DecidableEq, Inhabited

/-- Pieces one after the other end with `empty`, and pieces to choose from with `never`. -/
inductive Pattern where
  | empty
  | never
  | one (set : CharSet)
  | anchor (place : Anchor)
  | seq (a b : Pattern)
  | alt (a b : Pattern)
  | repeated (atLeast : Nat) (atMost : Option Nat) (isGreedy : Bool) (p : Pattern)
  /-- A piece once or more often, but only once where it does not move on at first. -/
  | onward (isGreedy : Bool) (p : Pattern)
  /-- A piece whose text can be referred to by a number. -/
  | group (n : Nat) (p : Pattern)
  /-- The text that a group has matched. -/
  | again (n : Nat)
  /-- A piece of which only the first way counts. -/
  | firstWay (p : Pattern)
  | ahead (wanted : Bool) (p : Pattern)
  /-- A piece that starts so many characters before a place. -/
  | behind (wanted : Bool) (size : Nat) (p : Pattern)
deriving Repr, Inhabited

namespace Pattern

/-! ## Ways -/

/-- Where a group started last, and where it ended last. -/
structure Span where
  number : Nat
  start : Nat
  stop : Option Nat
deriving DecidableEq, Repr

/-- How far a match has come: its place, and the groups that it has been through. -/
structure Way where
  place : Nat
  spans : List Span
deriving DecidableEq, Repr

namespace Way

def span? (w : Way) (n : Nat) : Option Span := w.spans.find? (·.number = n)

def setSpan (w : Way) (span : Span) : Way :=
  { w with spans := span :: w.spans.filter (·.number ≠ span.number) }

def openGroup (w : Way) (n : Nat) : Way :=
  w.setSpan ⟨n, w.place, (w.span? n).bind (·.stop)⟩

def closeGroup (w : Way) (n : Nat) : Way :=
  match w.span? n with
  | some span => w.setSpan { span with stop := some w.place }
  | none => w

end Way

/-- A list with every element once, where it comes first. -/
def distinct (ways : List Way) : List Way :=
  (ways.foldl (fun acc w => if acc.contains w then acc else w :: acc) []).reverse

/-- The ways that one step leads to from any of the given ones. -/
def stepAll (step : Way → List Way) (ways : List Way) : List Way := distinct (ways.flatMap step)

def iterate (step : Way → List Way) : Nat → List Way → List Way
  | 0, ways => ways
  | n + 1, ways => iterate step n (stepAll step ways)

/-! ## Repeating -/

/-- The ways that a repetition has found, newest first, and those that it has been at, each with the
number of steps that were left. -/
structure Trail where
  found : List Way
  visited : List (Way × Nat)

def Trail.add (t : Trail) (w : Way) : Trail :=
  if t.found.contains w then t else { t with found := w :: t.found }

/-- Whether a pattern may match without taking a character. -/
def mayStay : Pattern → Bool
  | .never | .one _ => false
  | .empty | .anchor _ | .again _ | .ahead _ _ | .behind _ _ _ => true
  | .seq a b => a.mayStay && b.mayStay
  | .alt a b => a.mayStay || b.mayStay
  | .repeated atLeast _ _ p => atLeast == 0 || p.mayStay
  | .onward _ p => p.mayStay
  | .group _ p => p.mayStay
  | .firstWay p => p.mayStay

/-- Finds the ways that at most so many steps lead to, in a text of some size. Steps that do not
move are left out unless they are to stay; then one that changes nothing ends where it is. A greedy
repetition finds the ways further on before the one it is at. -/
def climb (step : Way → List Way) (size : Nat) (stays isGreedy : Bool) : Nat → Way → Trail → Trail
  | 0, w, t => t.add w
  | n + 1, w, t =>
    let left := if stays then n + 1 else min (n + 1) (size - w.place)
    if t.visited.contains (w, left) then t
    else
      let t : Trail := { t with visited := (w, left) :: t.visited }
      let further := fun t : Trail =>
        (step w).foldl (fun t v =>
          if stays && v = w then t.add w
          else if stays || v.place ≠ w.place then climb step size stays isGreedy n v t
          else t) t
      if isGreedy then (further t).add w else further (t.add w)

/-! ## Places -/

/-- Whether a character belongs to a word. -/
def isWordSign (c : Char) : Bool := CharSet.unicodeWord.contains c

def isWordAt (text : Array Char) (i : Nat) : Bool := (text[i]?).any isWordSign

def isWordBefore (text : Array Char) (i : Nat) : Bool := i != 0 && isWordAt text (i - 1)

def Anchor.isAt (text : Array Char) (i : Nat) : Anchor → Bool
  | .textStart => i == 0
  | .textEnd => i == text.size
  | .lineStart => i == 0 || text[i - 1]? == some '\n'
  | .lineEnd => i == text.size || text[i]? == some '\n'
  | .wordEdge => isWordBefore text i != isWordAt text i
  | .notWordEdge => isWordBefore text i == isWordAt text i
  | .wordStart => !isWordBefore text i && isWordAt text i
  | .wordEnd => isWordBefore text i && !isWordAt text i

/-- Whether a text has from a place on what it has between two others. -/
def repeatsAt (text : Array Char) (start stop i : Nat) : Bool :=
  start ≤ stop && i + (stop - start) ≤ text.size &&
    (List.range (stop - start)).all fun k => text[start + k]? == text[i + k]?

/-! ## Matching -/

/-- The ways through a pattern from a given one, in the order in which they are tried. -/
def ways (text : Array Char) : Pattern → Way → List Way
  | .empty, w => [w]
  | .never, _ => []
  | .one set, w =>
    if (text[w.place]?).any set.contains then [{ w with place := w.place + 1 }] else []
  | .anchor place, w => if Anchor.isAt text w.place place then [w] else []
  | .seq a b, w => stepAll (fun v => ways text b v) (ways text a w)
  | .alt a b, w => distinct (ways text a w ++ ways text b w)
  | .repeated atLeast atMost isGreedy p, w =>
    let step := fun v => ways text p v
    let stays := atMost.isSome && p.mayStay
    let more :=
      match atMost with
      | some n => if stays then n - atLeast else min (n - atLeast) text.size
      | none => text.size
    ((iterate step atLeast [w]).foldl (fun t v => climb step text.size stays isGreedy more v t)
      ⟨[], []⟩).found.reverse
  | .onward isGreedy p, w =>
    let step := fun v => ways text p v
    ((step w).foldl (fun t v =>
      if v.place = w.place then t.add v
      else climb step text.size false isGreedy text.size v t) ⟨[], []⟩).found.reverse
  | .group n p, w => (ways text p (w.openGroup n)).map (·.closeGroup n)
  | .again n, w =>
    match w.span? n with
    | some ⟨_, start, some stop⟩ =>
      let next := { w with place := w.place + (stop - start) }
      if repeatsAt text start stop w.place then [next] else []
    | _ => []
  | .firstWay p, w => (ways text p w).take 1
  | .ahead true p, w => distinct ((ways text p w).map fun v => { v with place := w.place })
  | .ahead false p, w => if (ways text p w).isEmpty then [w] else []
  | .behind true size p, w =>
    if w.place < size then []
    else
      distinct ((ways text p { w with place := w.place - size }).map fun v =>
        { v with place := w.place })
  | .behind false size p, w =>
    if size ≤ w.place && !(ways text p { w with place := w.place - size }).isEmpty then [] else [w]

/-- Whether a text has a match. -/
def isMatch (p : Pattern) (s : String) : Bool :=
  let text := s.toList.toArray
  (List.range (text.size + 1)).any fun i => !(ways text p ⟨i, []⟩).isEmpty

end Pattern

end SchemaPipeline
