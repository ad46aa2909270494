import SchemaPipeline.Engine.Inquiry
import SchemaPipeline.Validation.Likeness
import SchemaPipeline.Validation.Plan

/-!
# Obligations

What a rule demands of a value, one level deep. An obligation is met or not by the value itself,
by the answer of a format, or by how other values fare under other plans, which is a trial for
later. The two readings of an obligation, whether it is met and what there is to report if it is
not, are `meets` and `findings`; both leave the trials to a function that is given.
-/

namespace SchemaPipeline

/-- A value at a place, under a plan. -/
structure Trial where
  plan : Plan
  value : Value
  path : Pointer

inductive Obligation where
  | refuted (fault : Fault)
  | asks (question : FormatQuery) (fault : Fault)
  | all (trials : List Trial)
  | any (trials : List Trial) (fault : Fault)
  | one (trials : List Trial) (noneFault severalFault : Fault)
  | not (trial : Trial) (fault : Fault)
  | count (trials : List Trial) (least : Nat) (most : Option Nat) (fault : Fault)
  | choice (condition : Trial) (consequence alternative : List Trial)
  | members (entries : List (String × Option (List Trial)))

namespace Obligation

/-! ## Whether an obligation is met -/

def allAccepted (accepts : Trial → Inquiry Bool) : List Trial → Inquiry Bool
  | [] => pure true
  | t :: rest => do if ← accepts t then allAccepted accepts rest else pure false

def anyAccepted (accepts : Trial → Inquiry Bool) : List Trial → Inquiry Bool
  | [] => pure false
  | t :: rest => do if ← accepts t then pure true else anyAccepted accepts rest

/-- Whether exactly one trial is accepted, or else whether several are; the search ends with the
second one. -/
def acceptedNumber (accepts : Trial → Inquiry Bool) : List Trial → Inquiry (Fin 3)
  | [] => pure 0
  | t :: rest => do
    if ← accepts t then
      if ← anyAccepted accepts rest then pure 2 else pure 1
    else acceptedNumber accepts rest

/-- Whether the number of accepted trials is within bounds; counting ends when this is settled. -/
def countWithin (accepts : Trial → Inquiry Bool) (least : Nat) (most : Option Nat) :
    Nat → List Trial → Inquiry Bool
  | n, [] => pure (decide (least ≤ n))
  | n, t :: rest => do
    if ← accepts t then
      match most with
      | none => if least ≤ n + 1 then pure true else countWithin accepts least most (n + 1) rest
      | some m => if m < n + 1 then pure false else countWithin accepts least most (n + 1) rest
    else countWithin accepts least most n rest

def membersAccepted (accepts : Trial → Inquiry Bool) :
    List (String × Option (List Trial)) → Inquiry Bool
  | [] => pure true
  | (_, none) :: _ => pure false
  | (_, some trials) :: rest => do
    if ← allAccepted accepts trials then membersAccepted accepts rest else pure false

def meets (accepts : Trial → Inquiry Bool) : Obligation → Inquiry Bool
  | .refuted _ => pure false
  | .asks q _ => Inquiry.query q
  | .all trials => allAccepted accepts trials
  | .any trials _ => anyAccepted accepts trials
  | .one trials _ _ => do pure ((← acceptedNumber accepts trials) == 1)
  | .not trial _ => do pure !(← accepts trial)
  | .count trials least most _ => countWithin accepts least most 0 trials
  | .choice condition consequence alternative => do
    if ← accepts condition then allAccepted accepts consequence
    else allAccepted accepts alternative
  | .members entries => membersAccepted accepts entries

def allMet (accepts : Trial → Inquiry Bool) : List Obligation → Inquiry Bool
  | [] => pure true
  | o :: rest => do if ← meets accepts o then allMet accepts rest else pure false

/-! ## What there is to report -/

def collect {α : Type} (f : α → Inquiry (List Violation)) : List α → Inquiry (List Violation)
  | [] => pure []
  | a :: rest => do
    let first ← f a
    let others ← collect f rest
    pure (first ++ others)

/-- The names that no trial stands for. -/
def unexpected (entries : List (String × Option (List Trial))) : List String :=
  entries.filterMap fun e => if e.2.isNone then some e.1 else none

def unlessMet (value : Value) (path : Pointer) (fault : Fault) (met : Bool) : List Violation :=
  if met then [] else [⟨path.text, fault.message value⟩]

/-- The violations of an obligation on a value at a place. -/
def findings (accepts : Trial → Inquiry Bool) (violations : Trial → Inquiry (List Violation))
    (value : Value) (path : Pointer) (o : Obligation) : Inquiry (List Violation) :=
  match o with
  | .all trials => collect violations trials
  | .choice condition consequence alternative => do
    if ← accepts condition then collect violations consequence
    else collect violations alternative
  | .members entries => do
    let inner ← collect (fun e => collect violations (e.2.getD [])) entries
    let extra := unexpected entries
    pure (inner ++ unlessMet value path (.extraProperties extra) extra.isEmpty)
  | .one trials noneFault severalFault => do
    let n ← acceptedNumber accepts trials
    pure (unlessMet value path (if n == 0 then noneFault else severalFault) (n == 1))
  | .refuted fault => pure (unlessMet value path fault false)
  | .asks _ fault | .any _ fault | .not _ fault | .count _ _ _ fault => do
    pure (unlessMet value path fault (← meets accepts o))

end Obligation

/-! ## The obligations of a rule -/

namespace Rule

def isInteger (literal : Bool) : Number → Bool
  | .int _ => true
  | .float x => !literal && x.isIntegral

def hasTypeName (literalIntegers : Bool) (v : Value) : TypeName → Bool
  | .array => v.isArray
  | .boolean => match v with | .bool _ => true | _ => false
  | .integer => match v with | .number n => isInteger literalIntegers n | _ => false
  | .null => match v with | .null => true | _ => false
  | .number => match v with | .number _ => true | _ => false
  | .object => v.isObject
  | .string => match v with | .string _ => true | _ => false

def withinLimit (limit : Limit) (n bound : Number) : Bool :=
  match limit, n.compare bound with
  | .atLeast, o => o != .lt
  | .moreThan, o => o == .gt
  | .atMost, o => o != .gt
  | .lessThan, o => o == .lt

def limitFault (limit : Limit) (bound : Number) : Fault :=
  match limit with
  | .atLeast => .lessThan (.number bound)
  | .moreThan => .notGreaterThan (.number bound)
  | .atMost => .greaterThan (.number bound)
  | .lessThan => .notLessThan (.number bound)

/-- Whether a fraction is less than one part in `2 ^ 52` above the integer below it, and so taken
for that integer. A negative one is always taken for the integer above it. -/
def nearlyIntegral (x : Binary64) : Bool :=
  let (n, d) := x.magnitude
  x.negative || decide (n % d * Nat.pow 2 52 < d)

/-- Whether the quotient of two fractions is an integer. -/
def dividesExactly (x y : Nat × Nat) : Bool := (x.1 * y.2) % (x.2 * y.1) == 0

/-- Whether a number is a multiple of another one. An integral divisor is tried exactly, another one
up to the rounding of the quotient. Where the quotient is too large to be had, the shortest decimals
of the two are divided. -/
def isMultiple (x divisor : Binary64) : Bool :=
  if divisor.isIntegral then
    x.isIntegral && !divisor.isZero && dividesExactly x.magnitude divisor.magnitude
  else
    match x.div divisor with
    | some q => nearlyIntegral q
    | none => dividesExactly x.decimal divisor.decimal

/-- The size of a value in a unit; a value of another kind has none. -/
def extentOf? : Extent → Value → Option Nat
  | .characters, .string s => some s.length
  | .items, .array xs => some xs.length
  | .properties, .object ms => some ms.length
  | _, _ => none

def extentFault : Extent → Bound → Nat → Fault
  | .characters, .least => .tooShort
  | .characters, .most => .tooLong
  | .items, .least => .tooFewItems
  | .items, .most => .tooManyItems
  | .properties, .least => .tooFewProperties
  | .properties, .most => .tooManyProperties

def withinBound (bound : Bound) (size n : Nat) : Bool :=
  match bound with
  | .least => n ≤ size
  | .most => size ≤ n

def refutedUnless (holds : Bool) (fault : Fault) : List Obligation :=
  if holds then [] else [.refuted fault]

/-- The trials for the property of a key, unless no plan is in charge of it. -/
def propertyTrials (path : Pointer) (named : List (String × Plan))
    (patterned : List (Patterned Plan)) (others : Remainder Plan) (key : String) (v : Value) :
    Option (List Trial) :=
  let trial (plan : Plan) : Trial := ⟨plan, v, path.push key⟩
  let matched := (patterned.filter fun p => p.pattern.isMatch key).map fun p => trial p.schema
  match named.lookup key, matched, others with
  | some plan, _, _ => some (trial plan :: matched)
  | none, _ :: _, _ => some matched
  | none, [], .under plan => some [trial plan]
  | none, [], .forbidden => none

/-- The elements from an index on with their trials. -/
def itemTrials (path : Pointer) (plan : Plan) (start : Nat) (xs : List Value) : List Trial :=
  ((xs.drop start).zipIdx start).map fun (x, i) => ⟨plan, x, path.push (Pointer.indexToken i)⟩

def tupleTrials (path : Pointer) (plans : List Plan) (xs : List Value) : List Trial :=
  ((plans.zip xs).zipIdx).map fun ((plan, x), i) => ⟨plan, x, path.push (Pointer.indexToken i)⟩

def dependencyObligations (path : Pointer) (v : Value) (ms : Members) (key : String)
    (d : Dependency Plan) : List Obligation :=
  if Members.contains ms key then
    match d with
    | .properties names =>
      (names.filter fun n => !Members.contains ms n).map fun n => .refuted (.missingProperty n)
    | .schema plan => [.all [⟨plan, v, path⟩]]
  else []

/-- What a rule demands of a value at a place. -/
def obligations (path : Pointer) (v : Value) (rule : Rule Plan) : List Obligation :=
  let here (plan : Plan) : Trial := ⟨plan, v, path⟩
  match rule, v with
  | .never, _ => [.refuted .never]
  | .types allowed literal, _ =>
    refutedUnless (allowed.any (hasTypeName literal v)) (.wrongType allowed)
  | .oneOfValues options, _ =>
    refutedUnless (options.any v.alike) (.notOneOf (.array options))
  | .constant expected, _ => refutedUnless (v.isConstant expected) (.notConstant expected)
  | .numeric limit bound, .number n =>
    refutedUnless (withinLimit limit n bound) (limitFault limit bound)
  | .multiple divisor, .number n =>
    refutedUnless (n.toBinary64?.all (isMultiple · divisor)) (.notMultiple divisor)
  | .extent what bound n, _ =>
    match extentOf? what v with
    | some size => refutedUnless (withinBound bound size n) (extentFault what bound n)
    | none => []
  | .unique, .array xs => refutedUnless (allDifferent xs) .notUnique
  | .required names, .object ms =>
    (names.filter fun n => !Members.contains ms n).map fun n => .refuted (.missingProperty n)
  | .matching pattern text, .string s => refutedUnless (pattern.isMatch s) (.noMatch text)
  | .format name holds, .string s => refutedUnless (holds s) (.notInFormat name)
  | .formatQuery name, .string s => [.asks ⟨name, s⟩ (.notInFormat name)]
  | .properties named, .object ms =>
    [.all (named.filterMap fun (key, plan) =>
      (Members.find? ms key).map fun w => ⟨plan, w, path.push key⟩)]
  | .patternProperties patterned, .object ms =>
    [.all (patterned.flatMap fun p =>
      (ms.filter fun m => p.pattern.isMatch m.1).map fun (key, w) => ⟨p.schema, w, path.push key⟩)]
  | .allProperties named patterned others, .object ms =>
    [.members (ms.map fun (key, w) => (key, propertyTrials path named patterned others key w))]
  | .noProperties, .object ((_, w) :: _) => [.refuted (.forbiddenProperty w)]
  | .noNames, .object (_ :: _) => [.refuted .never]
  | .propertyNames plan, .object ms => [.all (ms.map fun m => ⟨plan, .string m.1, path⟩)]
  | .dependencies entries, .object ms =>
    entries.flatMap fun (key, d) => dependencyObligations path v ms key d
  | .tuple plans, .array xs => [.all (tupleTrials path plans xs)]
  | .itemsFrom start plan, .array xs => [.all (itemTrials path plan start xs)]
  | .noItemsFrom start, .array xs =>
    refutedUnless (xs.length ≤ start) (.extraItems (xs.drop start))
  | .contains plan least most, .array xs =>
    [.count (itemTrials path plan 0 xs) least most .noneContained]
  | .allOf plans, _ => [.all (plans.map here)]
  | .anyOf plans, _ => [.any (plans.map here) (.noneOf "anyOf")]
  | .oneOf plans, _ => [.one (plans.map here) (.noneOf "oneOf") (.severalOf "oneOf")]
  | .not written plan, _ => [.not (here plan) (.forbidden written)]
  | .conditional condition consequence alternative, _ =>
    [.choice (here condition) (consequence.toList.map here) (alternative.toList.map here)]
  | _, _ => []

end Rule

/-- What a plan demands of a value at a place. A plan that is still to be made is a trial of its
own. -/
def Plan.obligations (path : Pointer) (v : Value) : Plan → List Obligation
  | .never => [.refuted .never]
  | .every rules => rules.flatMap (Rule.obligations path v)
  | .later plan => [.all [⟨plan.get, v, path⟩]]

end SchemaPipeline
