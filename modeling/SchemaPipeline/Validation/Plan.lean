import SchemaPipeline.Validation.Keyword
import SchemaPipeline.Validation.Scope

/-!
# Plans

A plan is a schema with everything looked up: keywords are read into rules, references are replaced
by what they lead to. A reference that leads to a new place is followed at once; one that leads to a
place where another reference has led before, and so maybe to a plan that is still being made, is
followed when its plan is asked for. A reference that leads back to a schema whose own reference has
the same text asks for nothing.

The fuel bounds how deep schemas lie in each other, references included. What would lie deeper asks
for nothing.
-/

namespace SchemaPipeline

inductive Plan where
  /-- What no value meets. -/
  | never
  | every (rules : List (Rule Plan))
  | later (plan : Thunk Plan)

namespace Plan

/-- The plan that all values meet. -/
def idle : Plan := .every []

/-- The keywords that refer to a schema. -/
def isReference (keyword : String) : Bool :=
  keyword == "$ref" || keyword == "$dynamicRef" || keyword == "$recursiveRef"

/-- Whether a schema has a reference of the same text under the same keyword. -/
def refersAlike (schema : Value) (keyword reference : String) : Bool :=
  (schema.get? keyword).bind Value.string? == some reference

/-- The plan of a place that was come to before, given how it is made. -/
def again (make : Site → Reading Plan) (s : Scope) (keyword reference : String) (target : Site) :
    Reading (Option Plan) := do
  let site ← s.revisit target
  if refersAlike target.schema keyword reference then pure none
  else
    pure (some (.later (Thunk.mk fun _ =>
      match (make site).run [] with
      | .ok (plan, _) => plan
      | .error _ => idle)))

/-- The plan that a reference leads to. -/
def follow (l : Library) (make : Site → Reading Plan) (s : Scope) (keyword reference : String) :
    Reading (Option Plan) := do
  if keyword == "$recursiveRef" then
    again make s keyword reference (← s.lookupRecursive l)
  else
    let uri ← s.base.refer reference
    let seen ← get
    if seen.contains uri.text then
      again make s keyword reference (← s.lookup l reference)
    else
      set (uri.text :: seen)
      let target ← s.lookup l reference
      pure (some (← make target))

/-- The plan of a schema. -/
def compile (l : Library) (terms : Terms) : Nat → Site → Reading Plan
  | 0, _ => pure idle
  | fuel + 1, site =>
    let s := site.scope
    let inner (schema : Value) : Reading Plan := do compile l terms fuel (← s.site schema)
    match site.schema with
    | .bool true => pure idle
    | .bool false => pure never
    | .object ms => do
      let rules ← (Keyword.counting s.draft ms).filterMapM fun (keyword, v) => do
        if !s.knows keyword then pure none
        else if isReference keyword then
          let reference ← Keyword.readText v
          pure ((← follow l (compile l terms fuel) s keyword reference).map fun p => .allOf [p])
        else Keyword.read terms s.draft inner ms keyword v
      pure (.every rules)
    | v => Keyword.refuse [.boolean, .object] v

/-- How deep a plan goes. -/
def depthLimit : Nat := 10000

/-- The plan of a schema, with the references inside it yet to be followed. -/
def ofSite (l : Library) (terms : Terms) (site : Site) : Except SchemaError Plan :=
  (compile l terms depthLimit site).run' []

end Plan

end SchemaPipeline
