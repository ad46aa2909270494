import SchemaPipeline.Config.Basic
import SchemaPipeline.Text.Utf8

/-!
# Configurations from the environment

Each field has a variable. A variable that is set must spell a value of its field, blanks around it
aside; the first one in the order of the fields that does not is the error. A variable that is not
set, or whose bytes are no text, leaves the default.
-/

namespace SchemaPipeline

/-- Variables and their bytes. -/
structure Environment where
  bindings : List (String × Utf8.Bytes)
deriving Repr

structure ConfigError where
  variableName : String
  value : String
deriving DecidableEq, Repr

namespace ConfigError

def message (e : ConfigError) : String :=
  "invalid value '" ++ e.value ++ "' for " ++ e.variableName

end ConfigError

namespace Environment

def empty : Environment := ⟨[]⟩

/-- The text of a variable. -/
def get? (env : Environment) (name : String) : Option String :=
  ((env.bindings.find? (·.1 == name)).bind fun v => Utf8.decode? v.2).map String.ofList

/-- The value of a variable, the default if it has no text. -/
def read {α : Type} (env : Environment) (name : String) (parse : String → Option α)
    (default : α) : Except ConfigError α :=
  match env.get? name with
  | none => .ok default
  | some raw =>
    match parse raw with
    | some a => .ok a
    | none => .error ⟨name, raw⟩

end Environment

namespace Config

def parseFlag (s : String) : Option Bool :=
  match Text.foldCase s with
  | "1" | "true" | "yes" | "on" => some true
  | "0" | "false" | "no" | "off" => some false
  | _ => none

/-- A natural below `2 ^ 64` in plain digits, perhaps after a plus sign. -/
def parseCount (s : String) : Option Nat :=
  let cs := Text.trimBlank s.toList
  let ds :=
    match cs with
    | '+' :: rest => rest
    | _ => cs
  if ds.isEmpty || !ds.all Char.isDigit then none
  else
    let n := ds.foldl (fun n c => n * 10 + (c.toNat - '0'.toNat)) 0
    if n < Nat.pow 2 64 then some n else none

def parseDraft (s : String) : Option DraftChoice := (DraftChoice.parse s).toOption

def draftVariable : String := "JSREG_DRAFT"
def formatsVariable : String := "JSREG_VALIDATE_FORMATS"
def defaultsVariable : String := "JSREG_USE_DEFAULTS"
def fillVariable : String := "JSREG_FILL_UNDEFINED"
def timeoutVariable : String := "JSREG_FETCH_TIMEOUT_SECS"
def agentVariable : String := "JSREG_USER_AGENT"

/-- The variables of the fields, in the order of the fields. -/
def variableNames : List String :=
  [draftVariable, formatsVariable, defaultsVariable, fillVariable, timeoutVariable, agentVariable]

def ofEnvironment (env : Environment) : Except ConfigError Config := do
  let d := default
  let draft ← env.read draftVariable parseDraft d.draft
  let formats ← env.read formatsVariable parseFlag d.validateFormats
  let defaults ← env.read defaultsVariable parseFlag d.useDefaults
  let fill ← env.read fillVariable parseFlag d.fillUndefined
  let timeout ← env.read timeoutVariable parseCount d.fetchTimeoutSecs
  let agent ← env.read agentVariable some d.userAgent
  .ok ⟨draft, formats, defaults, fill, timeout, agent⟩

end Config

end SchemaPipeline
