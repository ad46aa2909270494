import SchemaPipeline.Pattern.Basic
import SchemaPipeline.Validation.Fault

/-!
# Rules

A rule is what one keyword of a schema asks for. Where it speaks of other schemas it holds what
stands for them, of the type `σ`, so that a rule can be told apart from the way in which schemas are
written down.
-/

namespace SchemaPipeline

inductive Limit where
  | atLeast
  | moreThan
  | atMost
  | lessThan
deriving DecidableEq, Repr

/-- What is counted. -/
inductive Extent where
  | characters
  | items
  | properties
deriving DecidableEq, Repr

inductive Bound where
  | least
  | most
deriving DecidableEq, Repr

/-- What becomes of a property that no other keyword covers. -/
inductive Remainder (σ : Type) where
  | forbidden
  | under (schema : σ)

/-- What a property brings with it. -/
inductive Dependency (σ : Type) where
  | properties (names : List String)
  | schema (schema : σ)

structure Patterned (σ : Type) where
  pattern : Pattern
  schema : σ

inductive Rule (σ : Type) where
  | never
  | types (allowed : List TypeName) (literalIntegers : Bool)
  | oneOfValues (options : List Value)
  | constant (expected : Value)
  | numeric (limit : Limit) (bound : Number)
  | multiple (divisor : Binary64)
  | extent (what : Extent) (bound : Bound) (n : Nat)
  | unique
  | required (names : List String)
  | matching (pattern : Pattern) (text : String)
  | format (name : String) (holds : String → Bool)
  | formatQuery (name : String)
  | properties (named : List (String × σ))
  | patternProperties (patterned : List (Patterned σ))
  | allProperties (named : List (String × σ)) (patterned : List (Patterned σ))
      (others : Remainder σ)
  | noProperties
  | noNames
  | propertyNames (schema : σ)
  | dependencies (entries : List (String × Dependency σ))
  | tuple (schemas : List σ)
  | itemsFrom (start : Nat) (schema : σ)
  | noItemsFrom (start : Nat)
  | contains (schema : σ) (least : Nat) (most : Option Nat)
  | allOf (schemas : List σ)
  | anyOf (schemas : List σ)
  | oneOf (schemas : List σ)
  | not (written : Value) (schema : σ)
  | conditional (condition : σ) (consequence alternative : Option σ)

end SchemaPipeline
