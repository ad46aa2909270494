import SchemaPipeline.Engine.Judge
import SchemaPipeline.Pattern.Reader
import SchemaPipeline.Validation.Dialect
import SchemaPipeline.Validation.Likeness
import SchemaPipeline.Validation.Rule
import SchemaPipeline.Validation.StandardFormat

/-!
# Keywords

The rule of a keyword is read from its value and, for some keywords, from their neighbours. What is
to stand for a schema inside is made by a function that is given, as soon as the schema is met; so
faults are found in the order in which the keyword is written. References are no matter of a keyword
alone and are not read here.

Most values of a wrong type are faults. Where a keyword has a value of a wrong type that asks for
nothing, it is passed over.
-/

namespace SchemaPipeline

/-- Reading remembers the URIs that references were followed to. -/
abbrev Reading := StateT (List String) (Except SchemaError)

namespace Keyword

/-! ## Values -/

def refuse {α : Type} (types : List TypeName) (v : Value) : Reading α :=
  throw (.malformed (.wrongType types) v)

def readText (v : Value) : Reading String :=
  match v with
  | .string s => pure s
  | _ => refuse [.string] v

def readList (v : Value) : Reading (List Value) :=
  match v with
  | .array xs => pure xs
  | _ => refuse [.array] v

def readMembers (v : Value) : Reading Members :=
  match v with
  | .object ms => pure ms
  | _ => refuse [.object] v

def readNumber (v : Value) : Reading Number :=
  match v with
  | .number n => pure n
  | _ => refuse [.number] v

def readNames (v : Value) : Reading (List String) := do
  (← readList v).mapM readText

/-- The greatest count. -/
def greatestCount : Nat := Nat.pow 2 64 - 1

/-- The count that a number without a fraction comes nearest to. -/
def clampCount (x : Binary64) : Nat := min greatestCount (x.fraction.1 / x.fraction.2).toNat

/-- A count: in draft 4 an integer, later any number without a fraction, which is rounded to
binary64. -/
def readCount (d : Draft) (v : Value) : Reading Nat :=
  match v with
  | .number n =>
    match d, n, n.toBinary64? with
    | .draft4, .int i, _ =>
      if 0 ≤ i then pure i.toNat else throw (.malformed (.lessThan (.ofInt 0)) v)
    | .draft4, .float _, _ => refuse [.integer] v
    | _, _, some x => if x.isIntegral then pure (clampCount x) else refuse [.integer] v
    | _, _, none => refuse [.integer] v
  | _ => refuse [.integer] v

/-- A count of what is contained: an integer stands for itself. -/
def readQuantity (v : Value) : Reading Nat :=
  match v with
  | .number (.int i) =>
    if 0 ≤ i then pure i.toNat else throw (.malformed (.lessThan (.ofInt 0)) v)
  | .number (.float x) => if x.isIntegral then pure (clampCount x) else refuse [.integer] v
  | _ => refuse [.integer] v

def typeNames : Value := Value.ofStrings (TypeName.all.map TypeName.name)

def readTypeName (v : Value) : Reading TypeName := do
  match TypeName.ofName? (← readText v) with
  | some t => pure t
  | none => throw (.malformed (.notOneOf typeNames) v)

def readTypes (v : Value) : Reading (List TypeName) :=
  match v with
  | .array [.string s] | .string s =>
    match TypeName.ofName? s with
    | some t => pure [t]
    | none => throw (.malformed .unknownType v)
  | .array [w] => refuse [.string] w
  | .array xs => xs.mapM readTypeName
  | _ => refuse [.string, .array] v

/-- A pattern; the value at fault is given by the keyword. -/
def readPattern (text : String) (fault : Value) : Reading Pattern :=
  match Pattern.parse? text with
  | some p => pure p
  | none => throw (.malformed (.notInFormat "regex") fault)

/-! ## Schemas -/

section Schemas

variable {σ : Type} (plan : Value → Reading σ)

def readNamed (ms : Members) : Reading (List (String × σ)) :=
  ms.mapM fun (key, schema) => do pure (key, ← plan schema)

def readPatterned (ms : Members) : Reading (List (Patterned σ)) :=
  ms.mapM fun (text, schema) => do
    let pattern ← readPattern text schema
    pure ⟨pattern, ← plan schema⟩

def readSchemas (v : Value) : Reading (List σ) := do
  (← readList v).mapM plan

/-- A schema that is looked at and asks for nothing. -/
def readIdle (v : Value) : Reading (Option (Rule σ)) := do
  let _ ← plan v
  pure none

end Schemas

/-! ## Neighbours -/

def neighbour (parent : Members) (key : String) : Option Value := Members.find? parent key

/-- Whether a neighbour turns a limit into a strict one, as draft 4 has it. -/
def isStrict (parent : Members) (key : String) : Bool :=
  match neighbour parent key with
  | some (.bool true) => true
  | _ => false

/-- Whether `additionalProperties` sees to all properties of an object. -/
def coversProperties (parent : Members) : Bool :=
  match neighbour parent "additionalProperties" with
  | some (.bool false) => true
  | some (.object _) => true
  | _ => false

/-- How many items `prefixItems` sees to. -/
def leadingItems (parent : Members) : Nat :=
  match neighbour parent "prefixItems" with
  | some (.array xs) => xs.length
  | _ => 0

/-! ## Single keywords -/

section Single

variable {σ : Type} (plan : Value → Reading σ)

def readNumeric (limit : Limit) (v : Value) : Reading (Option (Rule σ)) := do
  pure (some (.numeric limit (← readNumber v)))

def readLimit (d : Draft) (parent : Members) (plain strict : Limit) (key : String) (v : Value) :
    Reading (Option (Rule σ)) :=
  readNumeric (if d == .draft4 && isStrict parent key then strict else plain) v

def readMultiple (v : Value) : Reading (Option (Rule σ)) := do
  pure ((← readNumber v).toBinary64?.map .multiple)

def readExtent (d : Draft) (what : Extent) (bound : Bound) (v : Value) :
    Reading (Option (Rule σ)) := do
  pure (some (.extent what bound (← readCount d v)))

/-- A format as the terms have it: the ones that are registered come first, and are left as
questions. -/
def readFormat (terms : Terms) (d : Draft) (v : Value) : Reading (Option (Rule σ)) := do
  if !terms.validateFormats then pure none
  else
    let name ← readText v
    if terms.formats.contains name then pure (some (.formatQuery name))
    else pure ((StandardFormat.find? d name).map (.format name))

def readAdditional (parent : Members) (v : Value) : Reading (Option (Rule σ)) := do
  let patterned ←
    match neighbour parent "patternProperties" with
    | none => pure []
    | some (.object ps) => readPatterned plan ps
    | some _ => refuse [.object] v
  match v, neighbour parent "properties", neighbour parent "patternProperties" with
  | .bool true, _, _ => pure none
  | .bool false, none, none => pure (some .noProperties)
  | _, properties, _ => do
    let named ←
      match properties with
      | none => pure []
      | some (.object ps) => readNamed plan ps
      | some _ => throw (.malformed .unknownType v)
    let others ←
      match v with
      | .bool false => pure .forbidden
      | schema => do pure (.under (← plan schema))
    pure (some (.allProperties named patterned others))

def readItems (parent : Members) (v : Value) : Reading (Option (Rule σ)) := do
  match v with
  | .array xs => pure (some (.tuple (← xs.mapM plan)))
  | .object _ | .bool false => pure (some (.itemsFrom (leadingItems parent) (← plan v)))
  | _ => pure none

/-- What `additionalItems` asks for beside `items`: beside a list, for what comes after it; beside a
schema nothing, and beside `false` the impossible. -/
def readAdditionalItems (parent : Members) (v : Value) : Reading (Option (Rule σ)) := do
  match neighbour parent "items", v with
  | some (.array xs), .bool false => pure (some (.noItemsFrom xs.length))
  | some (.array xs), .object _ => pure (some (.itemsFrom xs.length (← plan v)))
  | some (.array _), _ | some (.object _), _ | some (.bool true), _ | none, _ => pure none
  | some (.bool false), _ => pure (some .never)
  | some _, _ => refuse [.array, .boolean, .object] v

def readContains (d : Draft) (parent : Members) (v : Value) : Reading (Option (Rule σ)) := do
  if d.since .draft201909 then
    let least ← (neighbour parent "minContains").mapM readQuantity
    let most ← (neighbour parent "maxContains").mapM readQuantity
    pure (some (.contains (← plan v) (least.getD 1) most))
  else pure (some (.contains (← plan v) 1 none))

/-- The names that a property brings with it, none of them twice. -/
def readRequiredNames (v : Value) : Reading (Dependency σ) := do
  if allDifferent (← readList v) then pure (.properties (← readNames v))
  else throw (.malformed .notUnique v)

def readSchemaFor (v : Value) : Reading (Dependency σ) := do
  pure (.schema (← plan v))

def readDependency (v : Value) : Reading (Dependency σ) := do
  match v with
  | .array _ => pure (.properties (← readNames v))
  | schema => readSchemaFor plan schema

def readDependencies (read : Value → Reading (Dependency σ)) (v : Value) :
    Reading (Option (Rule σ)) := do
  let entries ← (← readMembers v).mapM fun (key, w) => do pure (key, ← read w)
  pure (some (.dependencies entries))

def readConditional (parent : Members) (v : Value) : Reading (Option (Rule σ)) := do
  match neighbour parent "then", neighbour parent "else" with
  | none, none => pure none
  | consequence, alternative =>
    let condition ← plan v
    let consequence ← consequence.mapM plan
    let alternative ← alternative.mapM plan
    pure (some (.conditional condition consequence alternative))

def readPropertyNames (v : Value) : Reading (Option (Rule σ)) := do
  match v with
  | .object _ => pure (some (.propertyNames (← plan v)))
  | .bool false => pure (some .noNames)
  | _ => pure none

end Single

/-! ## All keywords -/

/-- The drafts that know a keyword which not all of them know: the first and, if it is not the
latest, the last. -/
def lifetime? : String → Option (Draft × Option Draft)
  | "const" | "contains" | "exclusiveMaximum" | "exclusiveMinimum" | "propertyNames" =>
    some (.draft6, none)
  | "if" => some (.draft7, none)
  | "dependentRequired" | "dependentSchemas" | "unevaluatedItems" | "unevaluatedProperties" =>
    some (.draft201909, none)
  | "prefixItems" | "$dynamicRef" => some (.draft202012, none)
  | "$recursiveRef" => some (.draft201909, some .draft201909)
  | _ => none

def isKnown (d : Draft) (keyword : String) : Bool :=
  match lifetime? keyword with
  | none => true
  | some (first, last) => d.since first && last.all (·.since d)

/-- The rule of a keyword; one that is not known asks for nothing. -/
def read {σ : Type} (terms : Terms) (d : Draft) (plan : Value → Reading σ) (parent : Members)
    (keyword : String) (v : Value) : Reading (Option (Rule σ)) := do
  match keyword with
  | "additionalItems" => readAdditionalItems plan parent v
  | "additionalProperties" => readAdditional plan parent v
  | "allOf" => pure (some (.allOf (← readSchemas plan v)))
  | "anyOf" => pure (some (.anyOf (← readSchemas plan v)))
  | "const" => pure (some (.constant v))
  | "contains" => readContains plan d parent v
  | "dependencies" => readDependencies (readDependency plan) v
  | "dependentRequired" => readDependencies readRequiredNames v
  | "dependentSchemas" => readDependencies (readSchemaFor plan) v
  | "enum" => pure (some (.oneOfValues (← readList v)))
  | "exclusiveMaximum" => readNumeric .lessThan v
  | "exclusiveMinimum" => readNumeric .moreThan v
  | "format" => readFormat terms d v
  | "if" => readConditional plan parent v
  | "items" => readItems plan parent v
  | "maximum" => readLimit d parent .atMost .lessThan "exclusiveMaximum" v
  | "minimum" => readLimit d parent .atLeast .moreThan "exclusiveMinimum" v
  | "maxItems" => readExtent d .items .most v
  | "minItems" => readExtent d .items .least v
  | "maxLength" => readExtent d .characters .most v
  | "minLength" => readExtent d .characters .least v
  | "maxProperties" => readExtent d .properties .most v
  | "minProperties" => readExtent d .properties .least v
  | "multipleOf" => readMultiple v
  | "not" => pure (some (.not v (← plan v)))
  | "oneOf" => pure (some (.oneOf (← readSchemas plan v)))
  | "pattern" =>
    let text ← readText v
    pure (some (.matching (← readPattern text v) text))
  | "patternProperties" =>
    if coversProperties parent then pure none
    else pure (some (.patternProperties (← readPatterned plan (← readMembers v))))
  | "prefixItems" => pure (some (.tuple (← readSchemas plan v)))
  | "properties" =>
    if coversProperties parent then pure none
    else pure (some (.properties (← readNamed plan (← readMembers v))))
  | "propertyNames" => readPropertyNames plan v
  | "required" => pure (some (.required (← readNames v)))
  | "type" => pure (some (.types (← readTypes v) (d == .draft4)))
  | "unevaluatedItems" | "unevaluatedProperties" => readIdle plan v
  | "uniqueItems" => pure (if v matches .bool true then some .unique else none)
  | _ => pure none

/-- The keywords of a schema that count: up to draft 7, a reference alone. -/
def counting (d : Draft) (ms : Members) : Members :=
  match d.isLegacy, Members.find? ms "$ref" with
  | true, some (.string r) => [("$ref", .string r)]
  | _, _ => ms

end Keyword

end SchemaPipeline
