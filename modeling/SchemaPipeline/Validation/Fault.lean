import SchemaPipeline.Json.Writer

/-!
# Faults

The reasons for which a value is refused, each with what the schema asked for, and their wording.
The same reasons serve for a schema that is malformed: there the refused value is that of a keyword.
-/

namespace SchemaPipeline

/-- The types that a schema can ask for, in the order in which a message lists them. -/
inductive TypeName where
  | array
  | boolean
  | integer
  | null
  | number
  | object
  | string
deriving DecidableEq, Repr

namespace TypeName

def all : List TypeName := [.array, .boolean, .integer, .null, .number, .object, .string]

def name : TypeName → String
  | .array => "array"
  | .boolean => "boolean"
  | .integer => "integer"
  | .null => "null"
  | .number => "number"
  | .object => "object"
  | .string => "string"

def ofName? (s : String) : Option TypeName := all.find? (·.name == s)

end TypeName

inductive Fault where
  | wrongType (allowed : List TypeName)
  | notOneOf (options : Value)
  | notConstant (expected : Value)
  | lessThan (limit : Value)
  | greaterThan (limit : Value)
  | notGreaterThan (limit : Value)
  | notLessThan (limit : Value)
  | notMultiple (divisor : Binary64)
  | tooShort (limit : Nat)
  | tooLong (limit : Nat)
  | tooFewItems (limit : Nat)
  | tooManyItems (limit : Nat)
  | tooFewProperties (limit : Nat)
  | tooManyProperties (limit : Nat)
  | notUnique
  | missingProperty (name : String)
  | noMatch (pattern : String)
  | notInFormat (format : String)
  | noneOf (keyword : String)
  | severalOf (keyword : String)
  | forbidden (schema : Value)
  | noneContained
  | never
  | forbiddenProperty (value : Value)
  | extraProperties (names : List String)
  | extraItems (items : List Value)
  | unknownType
deriving Repr

namespace Fault

/-- A number with its noun, which has a plural. -/
def counted (n : Nat) (one many : String) : String :=
  toString n ++ " " ++ if n = 1 then one else many

def characters (n : Nat) : String := counted n "character" "characters"
def items (n : Nat) : String := counted n "item" "items"
def properties (n : Nat) : String := counted n "property" "properties"

def listed (parts : List String) : String := ", ".intercalate parts

def were (parts : List String) : String :=
  listed parts ++ if parts.length = 1 then " was unexpected)" else " were unexpected)"

/-- The sentence about a refused value. -/
def message (fault : Fault) (value : Value) : String :=
  let subject := Json.compact value
  match fault with
  | .wrongType [t] => subject ++ " is not of type " ++ Json.quoted t.name
  | .wrongType allowed =>
    subject ++ " is not of types " ++
      listed ((TypeName.all.filter allowed.contains).map fun t => Json.quoted t.name)
  | .notOneOf options => subject ++ " is not one of " ++ Json.compact options
  | .notConstant expected => Json.compact expected ++ " was expected"
  | .lessThan limit => subject ++ " is less than the minimum of " ++ Json.compact limit
  | .greaterThan limit => subject ++ " is greater than the maximum of " ++ Json.compact limit
  | .notGreaterThan limit =>
    subject ++ " is less than or equal to the minimum of " ++ Json.compact limit
  | .notLessThan limit =>
    subject ++ " is greater than or equal to the maximum of " ++ Json.compact limit
  | .notMultiple divisor => subject ++ " is not a multiple of " ++ divisor.plainText
  | .tooShort n => subject ++ " is shorter than " ++ characters n
  | .tooLong n => subject ++ " is longer than " ++ characters n
  | .tooFewItems n => subject ++ " has less than " ++ items n
  | .tooManyItems n => subject ++ " has more than " ++ items n
  | .tooFewProperties n => subject ++ " has less than " ++ properties n
  | .tooManyProperties n => subject ++ " has more than " ++ properties n
  | .notUnique => subject ++ " has non-unique elements"
  | .missingProperty name => Json.quoted name ++ " is a required property"
  | .noMatch pattern => subject ++ " does not match \"" ++ pattern ++ "\""
  | .notInFormat format => subject ++ " is not a \"" ++ format ++ "\""
  | .noneOf keyword =>
    subject ++ " is not valid under any of the schemas listed in the '" ++ keyword ++ "' keyword"
  | .severalOf keyword =>
    subject ++ " is valid under more than one of the schemas listed in the '" ++ keyword ++
      "' keyword"
  | .forbidden schema => Json.compact schema ++ " is not allowed for " ++ subject
  | .noneContained => "None of " ++ subject ++ " are valid under the given schema"
  | .never => "False schema does not allow " ++ subject
  | .forbiddenProperty property => "False schema does not allow " ++ Json.compact property
  | .extraProperties names =>
    "Additional properties are not allowed (" ++ were (names.map fun n => "'" ++ n ++ "'")
  | .extraItems extra =>
    "Additional items are not allowed (" ++ were (extra.map Json.compact)
  | .unknownType => "Unexpected type"

end Fault

end SchemaPipeline
