import SchemaPipeline.Pointer
import SchemaPipeline.Reference.Uri
import SchemaPipeline.Validation.Dialect

/-!
# Libraries

A library holds the resources that references can lead to, under their identifiers, and the anchors
of each. It is gathered from a root document: the schemas inside the document may name themselves,
and the documents that they refer to are fetched and gathered in turn. The first document that
cannot be had, and the first identifier that is none, ends the gathering.
-/

namespace SchemaPipeline

/-- A schema that has a name of its own, and its draft. -/
structure Resource where
  contents : Value
  draft : Draft

structure AnchorTarget where
  resource : Resource
  dynamic : Bool

/-- What was put in last stands first and is found first. -/
structure Library where
  resources : List (String × Resource)
  anchors : List ((String × String) × AnchorTarget)

namespace Library

def empty : Library := ⟨[], []⟩

def find? (l : Library) (uri : Uri) : Option Resource := l.resources.lookup uri.text

def insert (l : Library) (uri : Uri) (r : Resource) : Library :=
  { l with resources := (uri.text, r) :: l.resources }

def anchor? (l : Library) (uri : Uri) (name : String) : Option AnchorTarget :=
  l.anchors.lookup (uri.text, name)

def insertAnchor (l : Library) (uri : Uri) (name : String) (t : AnchorTarget) : Library :=
  { l with anchors := ((uri.text, name), t) :: l.anchors }

end Library

/-! ## Identifiers -/

namespace Uri

/-- The base of a document without an identifier. -/
def rootBase : Uri := ⟨some "json-schema", some "", "/", none, none⟩

def hasEnding (s ending : String) : Bool :=
  let cs := s.toList
  let es := ending.toList
  es.length ≤ cs.length && cs.drop (cs.length - es.length) == es

/-- The URI that a reference names, seen from a base. -/
def refer (base : Uri) (reference : String) : Except SchemaError Uri :=
  if Draft.startsWithHash reference && hasEnding base.text reference then .ok base
  else
    match parse reference with
    | .error e => .error (.badReference reference e)
    | .ok r =>
      match base.resolve? r with
      | .ok uri => .ok uri.normalize
      | .error cause => .error (.badBase reference base.text cause)

/-- The URI that a document calls itself. -/
def ofId (id : String) : Except SchemaError Uri := rootBase.refer id

end Uri

/-! ## Pointers into contents -/

namespace Resource

/-- An array index as the text of a pointer may give it, leading zeros and a plus sign allowed. -/
def lenientIndex? (token : String) : Option Nat :=
  let ds :=
    match token.toList with
    | '+' :: rest => rest
    | cs => cs
  if ds.isEmpty || !ds.all Char.isDigit then none
  else some (ds.foldl (fun n c => n * 10 + (c.toNat - '0'.toNat)) 0)

/-- The tokens of a pointer that starts with a slash, still escaped. -/
def rawTokens? (pointer : String) : Option (List String) :=
  (Utf8.decode? (Percent.decode (Utf8.encode (pointer.toList.drop 1)))).map fun cs =>
    (Text.splitOn (· == '/') cs).map String.ofList

/-- One step of a pointer, with the key that was used; an index has none. -/
def step (pointer : String) (v : Value) (token : String) :
    Except SchemaError (Value × Option String) :=
  match v with
  | .array xs =>
    match lenientIndex? token with
    | none => .error (.badIndex token pointer)
    | some i =>
      match xs[i]? with
      | some next => .ok (next, none)
      | none => .error (.noTarget pointer)
  | _ =>
    let key := String.ofList (Pointer.unescape token.toList)
    match v.get? key with
    | some next => .ok (next, some key)
    | none => .error (.noTarget pointer)

end Resource

/-! ## Gathering -/

namespace Library

/-- A library under way, the documents it still needs, and the references that were looked at. -/
structure Gathering where
  library : Library
  wanted : List Uri
  seen : List (String × String)

/-- Where the standard metaschemas live. -/
def standardPlaces : List String :=
  ["https://json-schema.org/draft/2020-12/", "https://json-schema.org/draft/2019-09/",
    "http://json-schema.org/draft-07/", "http://json-schema.org/draft-06/",
    "http://json-schema.org/draft-04/"]

def hasStart (s start : String) : Bool := s.toList.take start.toList.length == start.toList

def isStandard (reference : String) : Bool := standardPlaces.any (hasStart reference)

def isUrn (u : Uri) : Bool := u.scheme == some "urn"

/-- Notes that the document of a URI is wanted. -/
def Gathering.want (g : Gathering) (uri : Uri) : Gathering :=
  if g.wanted.contains uri then g else { g with wanted := g.wanted ++ [uri] }

/-- A fragment as it is, or encoded where it holds what none can. -/
def encodeFragment (cs : List Char) : String :=
  let isPlain := fun c => Uri.isTailChar c || c == '%'
  String.ofList (if cs.all isPlain then cs else Percent.encode (!Uri.isTailChar ·) cs)

/-- The URI that a reference to another document names. A base that is a part of a document counts
as the whole document. -/
def wantedUri (base : Uri) (reference : String) : Except SchemaError Uri :=
  match base.fragment with
  | none => base.refer reference
  | some _ =>
    match Text.splitFirst '#' reference.toList with
    | none => base.withoutFragment.refer reference
    | some (document, fragment) =>
      (base.withoutFragment.refer (String.ofList document)).map fun uri =>
        { uri with fragment := some (encodeFragment fragment) }

/-- Notes the document that each reference of a schema names. A reference within the document is
followed if what it leads to is a part of the schema; no reference is followed twice. -/
def noteReferences (base : Uri) : Nat → Value → Gathering → Except SchemaError Gathering
  | 0, _, g => .ok g
  | fuel + 1, schema, g =>
    if isUrn base then .ok g
    else
      ["$ref", "$schema"].foldlM (fun g key =>
        match (schema.get? key).bind Value.string? with
        | none => .ok g
        | some reference =>
          if isStandard reference || g.seen.contains (base.text, reference) then .ok g
          else
            let g := { g with seen := (base.text, reference) :: g.seen }
            if Draft.startsWithHash reference then
              match (Pointer.parseChars (reference.toList.dropWhile (· == '#'))).bind
                  (·.resolve schema) with
              | some target => noteReferences base fuel target g
              | none => .ok g
            else (wantedUri base reference).map g.want) g

/-- More steps than references can be followed within a schema. -/
def stepsWithin (schema : Value) : Nat := schema.size + 3

/-- A schema that waits to be gathered, and the base it is seen from. -/
structure Pending where
  base : Uri
  resource : Resource

/-- The base inside a resource. -/
def innerBase (base : Uri) (r : Resource) : Except SchemaError Uri :=
  match r.draft.id? r.contents with
  | some id => base.refer id
  | none => .ok base

/-- Gathers a schema and lists the schemas inside it. -/
def gatherOne (g : Gathering) (p : Pending) : Except SchemaError (Gathering × List Pending) := do
  let base ← innerBase p.base p.resource
  let named := (p.resource.draft.id? p.resource.contents).isSome
  let library := if named then g.library.insert base p.resource else g.library
  let library := (p.resource.draft.anchors p.resource.contents).foldl
    (fun l a => l.insertAnchor base a.name ⟨p.resource, a.dynamic⟩) library
  let contents := p.resource.contents
  let g ← noteReferences base (stepsWithin contents) contents { g with library := library }
  (p.resource.draft.subschemas contents).foldlM (fun (g, inner) schema => do
    let draft ← p.resource.draft.detect schema
    let resource : Resource := ⟨schema, draft⟩
    let schemaBase ← innerBase base resource
    let g ← noteReferences schemaBase (stepsWithin schema) schema g
    .ok (g, inner ++ [⟨base, resource⟩])) (g, [])

/-- Gathers schemas level by level. -/
def gatherLevels : Nat → List Pending → Gathering → Except SchemaError Gathering
  | 0, _, g => .ok g
  | fuel + 1, level, g =>
    if level.isEmpty then .ok g
    else do
      let (g, next) ← level.foldlM (fun (g, next) p => do
        let (g, inner) ← gatherOne g p
        .ok (g, next ++ inner)) (g, [])
      gatherLevels fuel next g

/-- Where documents come from: a document by its name. -/
abbrev Source := String → Option Value

/-- The part of a document that the fragment of a URI points to, to be gathered by itself. -/
def partOf (draft : Draft) (uri : Uri) (contents : Value) : List Pending :=
  match uri.fragment with
  | none => []
  | some fragment =>
    match (Pointer.parse fragment).bind (·.resolve contents) with
    | some v => [⟨uri, ⟨v, draft.detectLeniently v⟩⟩]
    | none => []

/-- Fetches the documents that are wanted and not there yet. -/
def fetchWanted (source : Source) (draft : Draft) (wanted : List Uri) (g : Gathering) :
    Except SchemaError (Gathering × List Pending) :=
  wanted.foldlM (fun (g, pending) uri =>
    let document := uri.withoutFragment
    if (g.library.find? document).isSome then .ok (g, pending)
    else
      let key := Reference.normalize document.text
      match source key with
      | none => .error (.notAvailable document.text key)
      | some contents => do
        let found ← draft.detect contents
        let resource : Resource := ⟨contents, found⟩
        let g := { g with library := g.library.insert document resource }
        .ok (g, pending ++ partOf draft uri contents ++ [⟨document, resource⟩])) (g, [])

/-- More levels than there are in what waits. -/
def levelsOf (pending : List Pending) : Nat :=
  pending.foldr (fun p n => p.resource.contents.size + 1 + n) 0

/-- Gathers what waits and what it wants, round by round. -/
def gatherRounds (source : Source) (draft : Draft) :
    Nat → List Pending → Gathering → Except SchemaError Gathering
  | 0, _, g => .ok g
  | fuel + 1, pending, g => do
    let g ← gatherLevels (levelsOf pending) pending g
    if g.wanted.isEmpty then .ok g
    else
      let (g, pending) ← fetchWanted source draft g.wanted { g with wanted := [] }
      gatherRounds source draft fuel pending g

/-- How many rounds of fetching are made. A round that goes on has fetched a document. -/
def maxRounds : Nat := 10000

/-- A library with a document under a name, and all that is reached from it. -/
def extend (start : Library) (source : Source) (base : Uri) (root : Resource) :
    Except SchemaError Library :=
  let pending : Pending := ⟨base, root⟩
  (gatherRounds source root.draft maxRounds [pending]
    ⟨start.insert base root, [], []⟩).map Gathering.library

end Library

end SchemaPipeline
