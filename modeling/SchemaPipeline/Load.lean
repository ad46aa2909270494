import SchemaPipeline.Config.Environment
import SchemaPipeline.Config.Yaml
import SchemaPipeline.Files

/-!
# Loading

Documents and configurations from files. The extension of a file says in which notation it is
written, and without a telling one it is JSON.
-/

namespace SchemaPipeline

/-- How a document is written down. -/
inductive Encoding where
  | json
  | yaml
deriving DecidableEq, Repr

namespace Encoding

def name : Encoding → String
  | .json => "JSON"
  | .yaml => "YAML"

def yamlExtensions : List String := ["yaml", "yml"]

/-- The encoding of the file at a path. Case makes no difference. -/
def ofPath (path : String) : Encoding :=
  match Path.extension? path with
  | some e =>
    if yamlExtensions.contains (String.ofList (Text.lowerAscii e.toList)) then .yaml else .json
  | none => .json

end Encoding

inductive LoadError where
  | unreadable (path : String)
  | malformed (encoding : Encoding) (path : String)
deriving DecidableEq, Repr

namespace LoadError

def message : LoadError → String
  | .unreadable path => "failed to read " ++ path
  | .malformed encoding path => "failed to parse " ++ encoding.name ++ " in " ++ path

end LoadError

namespace Files

/-- What the file at a path denotes. -/
def load {α : Type} (files : Files) (decode : Encoding → String → Option α) (path : String) :
    Except LoadError α :=
  match files path with
  | none => .error (.unreadable path)
  | some text =>
    let encoding := Encoding.ofPath path
    match decode encoding text with
    | none => .error (.malformed encoding path)
    | some a => .ok a

end Files

/-- The value that a text denotes. -/
def Value.decode : Encoding → String → Option Value
  | .json, text => Json.parse text
  | .yaml, text => (Yaml.Document.read? text).bind Yaml.Document.value?

namespace Config

/-- The configuration that a text denotes. -/
def decode : Encoding → String → Option Config
  | .json, text => ofJson text
  | .yaml, text => ofYaml text

/-- Why there is no configuration. -/
inductive SourceError where
  | file (error : LoadError)
  | environment (error : ConfigError)
deriving DecidableEq, Repr

def SourceError.message : SourceError → String
  | .file e => "failed to load registry configuration: " ++ e.message
  | .environment e => "invalid registry configuration: " ++ e.message

/-- The configuration of a file, or of the environment if no file is given. -/
def load (files : Files) (env : Environment) : Option String → Except SourceError Config
  | some path => (files.load decode path).mapError .file
  | none => (ofEnvironment env).mapError .environment

end Config

end SchemaPipeline
