import SchemaPipeline.Yaml.Token

/-!
# YAML nodes

A YAML document as a tree. A node that stands for another one is kept as such, under the number of
the name that it uses, since a node may stand for one that it is part of.
-/

namespace SchemaPipeline.Yaml

/-- What the tag of a node says. The first four are types that every document knows; the names of
the document's own types start with an exclamation mark. -/
inductive Tag where
  | bool
  | null
  | int
  | float
  | own (name : String)
  | other
deriving DecidableEq, Repr

namespace Tag

def coreTexts : List (String × Tag) :=
  [("tag:yaml.org,2002:bool", .bool), ("tag:yaml.org,2002:null", .null),
    ("tag:yaml.org,2002:int", .int), ("tag:yaml.org,2002:float", .float)]

/-- The tag with a text. A name of a type of the document's own must be legible to count. -/
def ofBytes : Utf8.Bytes → Option Tag
  | [0x21] => some (.own "!")
  | 0x21 :: name => (Utf8.decode? name).map fun cs => .own (String.ofList cs)
  | bytes =>
    match coreTexts.find? fun p => Utf8.ofString p.1 == bytes with
    | some (_, tag) => some tag
    | none => some .other

end Tag

inductive Node where
  | scalar (tag : Option Tag) (style : ScalarStyle) (text : String)
  | sequence (tag : Option Tag) (items : List Node)
  | mapping (tag : Option Tag) (entries : List (Node × Node))
  | alias (number : Nat)
deriving Repr, Inhabited

namespace Node

/-- The scalar that stands where nothing is written. -/
def empty : Node := .scalar none .plain ""

def tag? : Node → Option Tag
  | .scalar tag _ _ => tag
  | .sequence tag _ => tag
  | .mapping tag _ => tag
  | .alias _ => none

end Node

/-- A document: its node, if it has one, the nodes with a name by the number of the name, and how
many things there are in it, where a sequence or a mapping counts for its start and its end. -/
structure Document where
  root : Option Node
  named : List (Nat × Node)
  size : Nat

namespace Document

/-- The node that a node stands for. -/
def deref (d : Document) : Node → Option Node
  | .alias number => d.named.lookup number
  | n => some n

end Document

end SchemaPipeline.Yaml
