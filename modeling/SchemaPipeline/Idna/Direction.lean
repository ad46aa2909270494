import SchemaPipeline.Unicode.Direction

/-!
# Labels that read from right to left

A domain name with anything that is not written from left to right must have labels of which each
keeps its place next to the dots. Such a label has one direction, which its first character says; it
holds nothing of the other direction, and apart from marks it ends with a letter or a number.
-/

namespace SchemaPipeline.Idna

open Unicode (Direction direction)

def turns (d : Direction) : Bool :=
  d == .rightToLeft || d == .arabicLetter || d == .arabicNumber

/-- Whether a label makes a name one that has to be checked. -/
def hasTurn (ds : List Direction) : Bool := ds.any turns

def isNeutral (d : Direction) : Bool :=
  [.europeanNumber, .europeanSeparator, .commonSeparator, .europeanTerminator, .otherNeutral,
    .boundaryNeutral, .nonspacingMark].contains d

/-- The last direction of a label, marks aside. -/
def lastDirection? (ds : List Direction) : Option Direction :=
  (ds.reverse.dropWhile (· == .nonspacingMark)).head?

def readsLeftToRight (ds : List Direction) : Bool :=
  ds.all (fun d => d == .leftToRight || isNeutral d) &&
    (lastDirection? ds).any [.leftToRight, .europeanNumber].contains

def readsRightToLeft (ds : List Direction) : Bool :=
  ds.all (fun d => turns d || isNeutral d) &&
    (lastDirection? ds).any
      [.rightToLeft, .arabicLetter, .europeanNumber, .arabicNumber].contains &&
    !(ds.contains .europeanNumber && ds.contains .arabicNumber)

/-- Whether a label reads in one direction. -/
def hasOneDirection (ds : List Direction) : Bool :=
  match ds with
  | [] => true
  | .leftToRight :: _ => readsLeftToRight ds
  | .rightToLeft :: _ => readsRightToLeft ds
  | .arabicLetter :: _ => readsRightToLeft ds
  | _ => false

/-- Whether the labels of a name can stand side by side. -/
def areOrdered (labels : List (List Char)) : Bool :=
  let directions := labels.map (·.map fun c => direction c.toNat)
  !directions.any hasTurn || directions.all hasOneDirection

end SchemaPipeline.Idna
