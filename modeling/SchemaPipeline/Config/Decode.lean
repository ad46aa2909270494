import SchemaPipeline.Config.Basic
import SchemaPipeline.Json.Skim

/-!
# Configurations from documents

A configuration document is an object with the fields by name, in any order and other members
ignored, or an array of the fields in their order, which may stop early. A field that is there must
have a value of its type, and only once.
-/

namespace SchemaPipeline.Config

/-- How the values of a kind of document are read as field values. -/
structure FieldReader (α : Type) where
  draft : α → Option DraftChoice
  flag : α → Option Bool
  count : α → Option Nat
  text : α → Option String

/-- The configuration with a field set, by the place of the field. -/
def setField {α : Type} (r : FieldReader α) (c : Config) (index : Nat) (v : α) : Option Config :=
  match index with
  | 0 => (r.draft v).map fun x => { c with draft := x }
  | 1 => (r.flag v).map fun x => { c with validateFormats := x }
  | 2 => (r.flag v).map fun x => { c with useDefaults := x }
  | 3 => (r.flag v).map fun x => { c with fillUndefined := x }
  | 4 => (r.count v).map fun x => { c with fetchTimeoutSecs := x }
  | 5 => (r.text v).map fun x => { c with userAgent := x }
  | _ => none

def fieldNames : List String :=
  ["draft", "validate_formats", "use_defaults", "fill_undefined_properties", "fetch_timeout_secs",
    "user_agent"]

def ofSequenceFrom {α : Type} (r : FieldReader α) : Nat → List α → Config → Option Config
  | _, [], c => some c
  | i, v :: rest, c => (setField r c i v).bind (ofSequenceFrom r (i + 1) rest)

/-- The fields in their order. -/
def ofSequence {α : Type} (r : FieldReader α) (vs : List α) : Option Config :=
  ofSequenceFrom r 0 vs default

def ofPairsFrom {α : Type} (r : FieldReader α) :
    List String → List (String × α) → Config → Option Config
  | _, [], c => some c
  | seen, (name, v) :: rest, c =>
    if seen.contains name then none
    else
      let i := fieldNames.idxOf name
      if i < fieldNames.length then
        (setField r c i v).bind (ofPairsFrom r (name :: seen) rest)
      else ofPairsFrom r seen rest c

/-- The fields by name. -/
def ofPairs {α : Type} (r : FieldReader α) (ps : List (String × α)) : Option Config :=
  ofPairsFrom r [] ps default

/-! ## JSON -/

/-- A draft is its name, or an object with the name as its only key and nothing under it. -/
def jsonDraft : Value → Option DraftChoice
  | .string s => DraftChoice.ofName? s
  | .object [(k, .null)] => DraftChoice.ofName? k
  | _ => none

def jsonFlag : Value → Option Bool
  | .bool b => some b
  | _ => none

def jsonCount : Value → Option Nat
  | .number (.int i) => if 0 ≤ i then some i.toNat else none
  | _ => none

def jsonReader : FieldReader Value := ⟨jsonDraft, jsonFlag, jsonCount, Value.string?⟩

/-- The configuration that a value denotes. -/
def ofValue : Value → Option Config
  | .object ms => ofPairs jsonReader ms
  | .array vs => ofSequence jsonReader vs
  | _ => none

/-! ## JSON texts -/

/-- The value of a field. An object has one member, whose key is not repeated. -/
def readField : Json.Reader Value := fun cs =>
  match cs with
  | '\x7b' :: rest =>
    match Json.readObject Json.readString (fun _ => Json.readValue (Json.depthLimit - 2)) rest with
    | some ([(k, v)], rest) => some (.object [(k, v)], rest)
    | _ => none
  | _ => Json.readValue (Json.depthLimit - 1) cs

/-- The value of a member; one that is no field is only passed over. -/
def readMember (name : String) : Json.Reader (Option Value) := fun cs =>
  if fieldNames.contains name then (readField cs).map fun (v, rest) => (some v, rest)
  else (Json.skimValue cs).map fun (_, rest) => (none, rest)

/-- The fields among members. -/
def fieldsOf (ms : List (String × Option Value)) : List (String × Value) :=
  ms.filterMap fun (name, v) => v.map (name, ·)

def readConfig : Json.Reader (Option Config) := fun cs =>
  match cs with
  | '\x7b' :: rest =>
    (Json.readObject Json.readString readMember rest).map fun (ms, rest) =>
      (ofPairs jsonReader (fieldsOf ms), rest)
  | '[' :: rest =>
    (Json.readArray readField rest).map fun (vs, rest) => (ofSequence jsonReader vs, rest)
  | _ => none

/-- The configuration that a JSON text denotes. -/
def ofJson (text : String) : Option Config := (Json.readWhole readConfig text.toList).join

end SchemaPipeline.Config
