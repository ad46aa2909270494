import SchemaPipeline.Unicode.Case

/-!
# Sets of characters

The sets that one place of a pattern can stand for, by code point. They are described and not
listed, so that a set and all but it are equally small.
-/

namespace SchemaPipeline

open Unicode (Ranges)

inductive CharSet where
  | empty
  | range (lo hi : Nat)
  | table (ranges : Ranges)
  | union (a b : CharSet)
  | inter (a b : CharSet)
  | compl (a : CharSet)
  /-- A set with all that differs from its members in case only. -/
  | folded (a : CharSet)
deriving Repr, DecidableEq, Inhabited

namespace CharSet

/-- Whether a code point is in a set. -/
def has : CharSet → Nat → Bool
  | .empty, _ => false
  | .range lo hi, n => lo ≤ n && n ≤ hi
  | .table ranges, n => ranges.has n
  | .union a b, n => a.has n || b.has n
  | .inter a b, n => a.has n && b.has n
  | .compl a, n => !a.has n
  | .folded a, n => (Unicode.caseVariants n).any fun m => a.has m

def contains (set : CharSet) (c : Char) : Bool := set.has c.toNat

def single (c : Char) : CharSet := .range c.toNat c.toNat

def between (a b : Char) : CharSet := .range a.toNat b.toNat

def ofList (sets : List CharSet) : CharSet := sets.foldr .union .empty

/-- A set, or all that is not in it. -/
def signed (wanted : Bool) (set : CharSet) : CharSet := if wanted then set else .compl set

/-- A set, with what differs from its members in case only if case is to be left out. -/
def caseless (ignoresCase : Bool) (set : CharSet) : CharSet :=
  if ignoresCase then .folded set else set

def all : CharSet := .compl .empty

/-! ## Sets with names of their own -/

def upper : CharSet := between 'A' 'Z'

def lower : CharSet := between 'a' 'z'

def digits : CharSet := between '0' '9'

def letters : CharSet := .union upper lower

/-- Letters, digits and the underscore, of ASCII only. -/
def word : CharSet := ofList [letters, digits, single '_']

/-- The blanks of a pattern: the ASCII ones and four more. -/
def blank : CharSet :=
  ofList [single ' ', .range 9 13, .range 0xa0 0xa0, .range 0x2003 0x2003, .range 0x2029 0x2029,
    .range 0xfeff 0xfeff]

def hexDigits : CharSet := ofList [digits, between 'a' 'f', between 'A' 'F']

def notNewline : CharSet := .compl (single '\n')

end CharSet

end SchemaPipeline
