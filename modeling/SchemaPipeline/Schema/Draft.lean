import SchemaPipeline.Json.Value
import SchemaPipeline.Text.Blank

/-!
# Drafts

The editions of the schema language. A schema may say which one it is written in by the name of a
metaschema; a configuration may fix one for all schemas, or leave the choice to each schema.
-/

namespace SchemaPipeline

inductive Draft where
  | draft4
  | draft6
  | draft7
  | draft201909
  | draft202012
deriving DecidableEq, Repr, Inhabited

namespace Draft

def rank : Draft → Nat
  | .draft4 => 4
  | .draft6 => 6
  | .draft7 => 7
  | .draft201909 => 2019
  | .draft202012 => 2020

/-- Whether a draft is the given one or a later one. -/
def since (d first : Draft) : Bool := first.rank ≤ d.rank

def name : Draft → String
  | .draft4 => "draft4"
  | .draft6 => "draft6"
  | .draft7 => "draft7"
  | .draft201909 => "draft2019-09"
  | .draft202012 => "draft2020-12"

def all : List Draft := [.draft4, .draft6, .draft7, .draft201909, .draft202012]

/-- The draft under its exact name. -/
def ofName? (s : String) : Option Draft := all.find? (·.name == s)

end Draft

/-- One draft for all schemas, or none and each schema decides. -/
abbrev DraftChoice := Option Draft

namespace DraftChoice

def name : DraftChoice → String
  | none => "auto"
  | some d => d.name

/-- The choice under its exact name. -/
def ofName? (s : String) : Option DraftChoice :=
  if s = "auto" then some none else (Draft.ofName? s).map some

/-- The choice that a setting spells, in any of its spellings. The error is the setting as it was
compared. -/
def parse (s : String) : Except String DraftChoice :=
  match Text.foldCase s with
  | "auto" => .ok none
  | "draft4" | "draft-04" => .ok (some .draft4)
  | "draft6" | "draft-06" => .ok (some .draft6)
  | "draft7" | "draft-07" => .ok (some .draft7)
  | "draft2019-09" | "draft201909" => .ok (some .draft201909)
  | "draft2020-12" | "draft202012" => .ok (some .draft202012)
  | other => .error other

def unknownMessage (s : String) : String := "unknown schema draft '" ++ s ++ "'"

end DraftChoice

end SchemaPipeline
