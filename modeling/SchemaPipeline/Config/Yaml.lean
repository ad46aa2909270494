import SchemaPipeline.Config.Decode
import SchemaPipeline.Yaml.Reader
import SchemaPipeline.Yaml.Value

/-!
# Configurations from YAML

A flag and a count must be plain scalars, or literal blocks with the tag of their type; a name or a
text may be written in any way. A text without a document, and an empty one, leave every field at
its default.
-/

namespace SchemaPipeline.Config

/-- The text of a scalar that can be more than a text. -/
def valueText? (type : Yaml.Tag) : Yaml.Node → Option String
  | .scalar _ .plain s => some s
  | .scalar tag .literal s => if tag = some type then some s else none
  | _ => none

def scalarText? : Yaml.Node → Option String
  | .scalar _ _ s => some s
  | _ => none

/-- A draft is its name, or the name as a tag with nothing under it. -/
def yamlDraft : Yaml.Node → Option DraftChoice
  | .scalar (some (.own name)) style s =>
    if style = .plain && Yaml.Look.isNull s then DraftChoice.ofName? name else none
  | .scalar _ _ s => DraftChoice.ofName? s
  | _ => none

def yamlFlag (n : Yaml.Node) : Option Bool := (valueText? .bool n).bind Yaml.Look.flag?

def yamlCount (n : Yaml.Node) : Option Nat :=
  (valueText? .int n).bind fun s =>
    if s.toList.head? = some '-' then none
    else (Yaml.Look.integer? s).bind fun i => if i < Nat.pow 2 64 then some i.toNat else none

/-- The fields of a document are read from what its nodes stand for. -/
def yamlReader (d : Yaml.Document) : FieldReader Yaml.Node where
  draft n := (d.deref n).bind yamlDraft
  flag n := (d.deref n).bind yamlFlag
  count n := (d.deref n).bind yamlCount
  text n := (d.deref n).bind scalarText?

/-- The entries of a mapping with their keys as texts. -/
def textEntries (d : Yaml.Document) :
    List (Yaml.Node × Yaml.Node) → Option (List (String × Yaml.Node))
  | [] => some []
  | (k, v) :: rest =>
    match (d.deref k).bind scalarText?, textEntries d rest with
    | some name, some entries => some ((name, v) :: entries)
    | _, _ => none

/-- The configuration that a document denotes. -/
def ofDocument (d : Yaml.Document) : Option Config :=
  match d.root with
  | none => some default
  | some (.mapping _ entries) => (textEntries d entries).bind (ofPairs (yamlReader d))
  | some (.scalar _ .plain s) => if s.isEmpty then some default else none
  | some _ => none

/-- The configuration that a YAML text denotes. -/
def ofYaml (text : String) : Option Config := (Yaml.Document.read? text).bind ofDocument

end SchemaPipeline.Config
