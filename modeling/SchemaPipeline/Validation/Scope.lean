import SchemaPipeline.Validation.Keyword
import SchemaPipeline.Validation.Vocabulary

/-!
# Scopes

What a schema means depends on where it is read: the base that its references are resolved against,
the trail of the bases that led here through references, the nearest first, the draft and the
vocabularies in use. Some references look along the trail for the outermost resource that answers to
a name.
-/

namespace SchemaPipeline

structure Scope where
  base : Uri
  trail : List Uri
  draft : Draft
  vocabularies : List Vocabulary

/-- A schema with the scope inside it. -/
structure Site where
  schema : Value
  scope : Scope

namespace Scope

/-- The scope inside a schema, which may name itself. -/
def enter (s : Scope) (schema : Value) : Except SchemaError Scope :=
  match s.draft.id? schema with
  | some id => (s.base.refer id).map fun base => { s with base := base }
  | none => .ok s

/-- A schema that stands in a scope. It may say which draft it is written in, and name itself. -/
def site (s : Scope) (schema : Value) : Except SchemaError Site :=
  (enter { s with draft := s.draft.detectLeniently schema } schema).map (⟨schema, ·⟩)

/-- Whether a keyword means something. -/
def knows (s : Scope) (keyword : String) : Bool :=
  Keyword.isKnown s.draft keyword &&
    (s.draft.isLegacy || (Vocabulary.ofKeyword? keyword).all s.vocabularies.contains)

/-- The scope after a reference to a resource. -/
def moveTo (s : Scope) (base : Uri) : Scope :=
  if s.trail.isEmpty || base != s.base then { s with base := base, trail := s.base :: s.trail }
  else { s with base := base }

/-- Follows a pointer within a document, through the resources it passes. -/
def descend (pointer : String) :
    Scope → Value → List (Option String) → List String → Except SchemaError Site
  | s, v, _, [] => .ok ⟨v, s⟩
  | s, v, path, t :: rest =>
    match Resource.step pointer v t with
    | .error e => .error e
    | .ok (next, key) =>
      let path := path ++ [key]
      if s.draft.leadsToSchema path then
        match s.enter next with
        | .error e => .error e
        | .ok inner =>
          descend pointer inner next (if inner.base == s.base then path else []) rest
      else descend pointer s next path rest

/-- The anchor of a resource, under its own name or the one it gives itself. -/
def findAnchor (l : Library) (uri : Uri) (r : Resource) (name : String) :
    Except SchemaError AnchorTarget :=
  let missing : Except SchemaError AnchorTarget :=
    .error (if name.toList.contains '/' then .badAnchor name else .noAnchor name)
  match l.anchor? uri name with
  | some t => .ok t
  | none =>
    match r.draft.id? r.contents with
    | none => missing
    | some id =>
      match Uri.ofId id with
      | .error e => .error e
      | .ok own =>
        match l.anchor? own name with
        | some t => .ok t
        | none => missing

/-- Whether a resource has an anchor that outer resources can replace. -/
def dynamicTarget? (l : Library) (name : String) (uri : Uri) : Option Resource :=
  ((l.anchor? uri name).filter (·.dynamic)).map (·.resource)

/-- The site of an anchor: the outermost one along the trail, if it can be replaced. -/
def anchorSite (l : Library) (s : Scope) (name : String) (t : AnchorTarget) :
    Except SchemaError Site :=
  if t.dynamic then
    let outer := (s.trail.filterMap (dynamicTarget? l name)).getLast?.getD t.resource
    (enter { s with draft := outer.draft } outer.contents).map fun inner =>
      ⟨outer.contents, { inner with draft := outer.draft }⟩
  else .ok ⟨t.resource.contents, { s with draft := t.resource.draft }⟩

/-- The part of a reference before its last number sign, and the fragment after it. -/
def splitReference (s : Scope) (reference : String) : Except SchemaError (Uri × String) :=
  match reference.toList with
  | '#' :: fragment => .ok (s.base, String.ofList fragment)
  | cs =>
    let (document, fragment) :=
      match Text.splitLast '#' cs with
      | some (document, fragment) => (String.ofList document, String.ofList fragment)
      | none => (reference, "")
    (s.base.refer document).map (·, fragment)

/-- A site with the vocabularies that its schema uses. -/
def settle (l : Library) (site : Site) : Site :=
  let vocabularies := Vocabulary.ofSchema l site.scope.draft site.schema
  { site with scope := { site.scope with vocabularies := vocabularies } }

/-- The site that a reference leads to. -/
def lookup (l : Library) (s : Scope) (reference : String) : Except SchemaError Site := do
  let (uri, fragment) ← s.splitReference reference
  match l.find? uri with
  | none => .error (.notLoaded uri.text)
  | some r =>
    let moved := { s.moveTo uri with draft := r.draft }
    if fragment.toList.head? = some '/' then
      match Resource.rawTokens? fragment with
      | none => .error (.badEncoding fragment)
      | some tokens => (descend fragment moved r.contents [] tokens).map (settle l)
    else if fragment.isEmpty then .ok (settle l ⟨r.contents, moved⟩)
    else do
      let t ← findAnchor l uri r fragment
      (anchorSite l moved fragment t).map (settle l)

/-- The site that a reference leads back to. It is read in the draft and the vocabularies of the
reference. -/
def revisit (s : Scope) (target : Site) : Except SchemaError Site :=
  let scope := { target.scope with draft := s.draft, vocabularies := s.vocabularies }
  (enter scope target.schema).map (⟨target.schema, ·⟩)

/-- Whether a schema asks to be replaced by the resources around it. -/
def isRecursive (schema : Value) : Bool :=
  match schema.get? "$recursiveAnchor" with
  | some (.bool true) => true
  | _ => false

/-- Goes outward along the trail as long as the resources ask to be replaced. -/
def outermost (l : Library) (s : Scope) : Site → List Uri → Site
  | found, [] => found
  | found, uri :: rest =>
    match s.lookup l uri.text with
    | .ok next => if isRecursive next.schema then outermost l s next rest else found
    | .error _ => found

/-- The site of the resource at hand, or of the outermost one that takes its place. -/
def lookupRecursive (l : Library) (s : Scope) : Except SchemaError Site := do
  let found ← s.lookup l "#"
  if isRecursive found.schema then .ok (outermost l s found s.trail) else .ok found

end Scope

end SchemaPipeline
