import SchemaPipeline.Pattern.Basic

/-!
# Commitment

What nobody can come back to is matched at one go and commits to its first way. This concerns the
content of pieces that look around a place and of those that keep what they took: a simple one
commits as a whole, and of another one the alternatives that are simple, or the last pieces as far as
they are. What comes before a piece that is not simple keeps all its ways.

Simple is what has no groups that are referred to, no edges of words, and no pieces within it that
look around or keep what they took. A pattern is taken to have only groups that are referred to.
-/

namespace SchemaPipeline.Pattern

def isSimple : Pattern → Bool
  | .empty | .never | .one _ => true
  | .anchor place => !([.wordEdge, .notWordEdge, .wordStart, .wordEnd] : List Anchor).contains place
  | .seq a b => a.isSimple && b.isSimple
  | .alt a b => a.isSimple && b.isSimple
  | .repeated _ _ _ p => p.isSimple
  | .onward _ p => p.isSimple
  | .group _ _ | .again _ | .firstWay _ | .ahead _ _ | .behind _ _ _ => false

/-- Something or nothing, the one or the other first. -/
def optional (isGreedy : Bool) (p : Pattern) : Pattern :=
  if isGreedy then .alt p (.alt .empty .never) else .alt .empty (.alt p .never)

/-- The pattern with a repetition without a greatest number ending at its last obligatory piece, if
that one does not move on. -/
def onwards : Pattern → Pattern
  | .seq a b => .seq a.onwards b.onwards
  | .alt a b => .alt a.onwards b.onwards
  | .repeated 0 none isGreedy p => optional isGreedy (.onward isGreedy p.onwards)
  | .repeated (n + 1) none isGreedy p =>
    .seq (.repeated n (some n) isGreedy p.onwards) (.seq (.onward isGreedy p.onwards) .empty)
  | .repeated lo (some hi) isGreedy p => .repeated lo (some hi) isGreedy p.onwards
  | p => p

/-- A simple pattern that is matched at one go. -/
def atOnce (p : Pattern) : Pattern := .firstWay p.onwards

mutual

/-- A pattern that is come back to, with commitment only inside the pieces that call for it. -/
def uncommitted : Pattern → Pattern
  | .seq a b => .seq a.uncommitted b.uncommitted
  | .alt a b => .alt a.uncommitted b.uncommitted
  | .repeated lo hi isGreedy p => .repeated lo hi isGreedy p.uncommitted
  | .group n p => .group n p.uncommitted
  | .firstWay p => .firstWay p.committed
  | .ahead wanted p => .ahead wanted p.committed
  | .behind wanted size p => .behind wanted size p.committed
  | p => p

/-- A pattern that commits as far as it can. -/
def committed : Pattern → Pattern
  | .seq a b => if a.isSimple && b.isSimple then atOnce (.seq a b) else .seq a.uncommitted b.committed
  | .alt a b =>
    if a.isSimple && b.isSimple then atOnce (.alt a b) else .alt a.committed b.committedChoices
  | .repeated lo hi isGreedy p =>
    if p.isSimple then atOnce (.repeated lo hi isGreedy p)
    else if lo = 0 ∧ hi = some 1 then .repeated lo hi isGreedy p.committed
    else .repeated lo hi isGreedy p.uncommitted
  | .group n p => .group n p.committed
  | .firstWay p => .firstWay p.committed
  | .ahead wanted p => .ahead wanted p.committed
  | .behind wanted size p => .behind wanted size p.committed
  | p => p

/-- Pieces to choose from, each of which commits as far as it can. -/
def committedChoices : Pattern → Pattern
  | .alt a b => .alt a.committed b.committedChoices
  | p => p

end

end SchemaPipeline.Pattern
