import SchemaPipeline.Yaml.Look
import SchemaPipeline.Yaml.Node

/-!
# Values of YAML documents

The JSON value that a document denotes. A plain scalar goes by its look; a quoted one is a text
whatever it looks like, and a tag settles the matter either way. A node with a tag of the document's
own has no value. Keys are always texts.

A document can be much larger in what it stands for than in its text, and even without end, so there
are bounds for the nesting and for how often a node is put in the place of another.
-/

namespace SchemaPipeline.Yaml

/-! ## Scalars -/

namespace Look

/-- Whether an integer has at most so many bits, signed or not. -/
def fitsBits (bits : Nat) (i : Int) : Bool :=
  -(Nat.pow 2 (bits - 1) : Int) ≤ i && i < Nat.pow 2 bits

def fitsWord (i : Int) : Bool := fitsBits 64 i

def fitsDoubleWord (i : Int) : Bool := fitsBits 128 i

def realValue : Real → Value
  | .finite x => .number (.float x)
  | .notFinite => .null

def isPaddedText (s : String) : Bool := isPadded (unsigned s.toList)

def fractionValue? (s : String) : Option Value :=
  if isPaddedText s then none else (real? s).map realValue

/-- The value of a number; an integer of more than 64 but not of more than 128 bits has none. -/
def number? (s : String) : Option (Option Value) :=
  match integer? s with
  | some i =>
    if fitsWord i then some (some (.number (.int i)))
    else if fitsDoubleWord i then some none
    else (fractionValue? s).map some
  | none => (fractionValue? s).map some

/-- The value of a plain scalar. -/
def value? (s : String) : Option Value :=
  if isNull s then some .null
  else
    match flag? s with
    | some b => some (.bool b)
    | none => (number? s).getD (some (.string s))

/-- The value of a scalar with a tag. -/
def taggedValue? (tag : Tag) (s : String) : Option Value :=
  match tag with
  | .bool => (flag? s).map Value.bool
  | .null => if isNullWord s then some .null else none
  | .int => (integer? s).bind fun i => if fitsWord i then some (.number (.int i)) else none
  | .float => (real? s).map realValue
  | .own _ => none
  | .other => some (.string s)

end Look

def scalarValue? : Option Tag → ScalarStyle → String → Option Value
  | some tag, _, s => Look.taggedValue? tag s
  | none, .plain, s => Look.value? s
  | none, _, s => some (.string s)

/-! ## Nodes -/

def isOwn : Option Tag → Bool
  | some (.own _) => true
  | _ => false

/-- A step that may use up some of the substitutions that are left. -/
abbrev Bounded (α : Type) : Type := StateT Nat Option α

namespace Document

/-- The node that a node stands for, at the cost of a substitution. -/
def follow (d : Document) : Node → Bounded Node
  | .alias number => fun left =>
    match left, d.named.lookup number with
    | left + 1, some n => some (n, left)
    | _, _ => none
  | n => pure n

/-- The text of a key. -/
def key (d : Document) (n : Node) : Bounded String := do
  match ← d.follow n with
  | .scalar _ _ s => pure s
  | _ => fun _ => none

/-- The value of a node with at most so many sequences and mappings in one another. -/
def valueOf (d : Document) : Nat → Node → Bounded Value
  | depth, n => do
    match ← d.follow n, depth with
    | .scalar tag style s, _ => fun left => (scalarValue? tag style s).map (·, left)
    | .sequence tag items, depth + 1 =>
      if isOwn tag then fun _ => none
      else do
        let vs ← items.mapM (valueOf d depth)
        pure (.array vs)
    | .mapping tag entries, depth + 1 =>
      if isOwn tag then fun _ => none
      else do
        let ps ← entries.mapM fun (k, v) => do
          let name ← d.key k
          let value ← valueOf d depth v
          pure (name, value)
        pure (.object (Members.ofPairs ps))
    | _, _ => fun _ => none

def maxDepth : Nat := 128

/-- How often a node can be put in the place of another, for each thing in a document. -/
def maxSubstitutions : Nat := 100

/-- The value of a document; null if there is nothing in it. -/
def value? (d : Document) : Option Value :=
  match d.root with
  | none => some .null
  | some n => (valueOf d maxDepth n (maxSubstitutions * d.size)).map (·.1)

end Document

end SchemaPipeline.Yaml
