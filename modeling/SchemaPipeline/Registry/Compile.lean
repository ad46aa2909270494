import SchemaPipeline.Fresh
import SchemaPipeline.Reference.Resolution
import SchemaPipeline.Registry.Basic
import SchemaPipeline.Schema.Resource

/-!
# Compiling against what is there

A schema is compiled against the cached documents. Whenever documents turn out to be missing, all of
them are fetched and the schema is compiled again; a document that was fetched once and is missing
again will not be found by fetching it a second time, so that is an error. A compiled schema is
handed out only when each of its references has a target, seen from the resource that holds it.
-/

namespace SchemaPipeline

inductive CompileError where
  | invalidSchema (reason : String)
  | unresolved (reference reason : String)
  | fetch (error : FetchError)
deriving DecidableEq, Repr

namespace CompileError

def message : CompileError → String
  | .invalidSchema reason => "failed to compile schema: " ++ reason
  | .unresolved reference reason => "unresolved reference '" ++ reference ++ "': " ++ reason
  | .fetch error => "failed to fetch referenced schema: " ++ error.message

end CompileError

/-- A compiled schema. -/
structure Validator (κ : Type) where
  schema : Value
  context : κ

namespace Registry

variable {σ κ : Type} [SchemaContext κ]

/-! ## References without a target -/

/-- The base and the context inside nested resources, given by their identifiers. An identifier
that leads to no context is passed over. -/
def enterScope (base : Option Url) (context : κ) (scope : List String) : Option Url × κ :=
  scope.foldl (fun (b, c) id => (b.bind (·.join? id), (SchemaContext.document c id).getD c))
    (base, context)

/-- What is to be done about a reference. -/
inductive ReferenceState where
  | resolved
  | missing (uri : String)
  | broken (reason : String)

def isRemote (uri : String) : Bool := (Url.parse? uri).any Url.isWeb

/-- A reference seen from a base and a context. Only a document that can be fetched is missing. -/
def referenceState (base : Option Url) (context : κ) (reference : String) : ReferenceState :=
  match Reference.resolveIn reference context with
  | .ok _ => .resolved
  | .error (.unknownDocument r) =>
    let uri := Reference.absolute base (Reference.split reference).1
    if isRemote uri then .missing uri else .broken (ReferenceError.unknownDocument r).message
  | .error e => .broken e.message

/-- The documents that references miss, each once; the first broken reference is an error. -/
def missingOf (base : Option Url) (context : κ) :
    List String → List String → Except CompileError (List String)
  | [], missing => .ok missing
  | reference :: rest, missing =>
    match referenceState base context reference with
    | .resolved => missingOf base context rest missing
    | .missing uri => missingOf base context rest (addNew missing uri)
    | .broken reason => .error (.unresolved reference reason)

def missingFrom (base : Option Url) (context : κ) :
    List Schema.ResourceReferences → List String → Except CompileError (List String)
  | [], missing => .ok missing
  | resource :: rest, missing =>
    let (innerBase, inner) := enterScope base context resource.scope
    match missingOf innerBase inner resource.references missing with
    | .ok missing => missingFrom base context rest missing
    | .error e => .error e

/-- The documents that the references of a schema miss. -/
def missingDocuments (schema : Value) (context : κ) : Except CompileError (List String) :=
  missingFrom (Schema.baseUrl? schema) context (Schema.collectReferences schema) []

/-! ## The rounds -/

/-- What the rounds keep: the state of the compiler, the cache, the documents asked for so far, and
the requests that were made. -/
structure Progress (σ : Type) where
  state : σ
  cache : Cache
  asked : List String
  requests : List Cache.Request

def twiceMessage : String :=
  "document was fetched but the reference still cannot be resolved"

/-- Notes that documents are asked for; the first one that was asked for before is an error. -/
def askFor : List String → List String → Except CompileError (List String)
  | asked, [] => .ok asked
  | asked, uri :: rest =>
    if asked.contains uri then .error (.unresolved uri twiceMessage)
    else askFor (asked ++ [uri]) rest

/-- One round of fetching. -/
def fetchMissing (net : Network) (arrival : List Cache.Request → List Cache.Request)
    (uris : List String) (p : Progress σ) : Except CompileError Unit × Progress σ :=
  match askFor p.asked uris with
  | .error e => (.error e, p)
  | .ok asked =>
    let (result, requests, cache) := p.cache.fetchAll net arrival uris
    let p := { p with asked := asked, cache := cache, requests := p.requests ++ requests }
    match result with
    | .ok () => (.ok (), p)
    | .error e => (.error (.fetch e), p)

/-- What one call of the compiler leads to: the end, or documents to fetch. -/
inductive Attempt (κ : Type) where
  | done (context : κ)
  | failed (error : CompileError)
  | needs (uris : List String)

def attempt (compiler : Compiler σ κ) (schema : Value) (p : Progress σ) :
    Attempt κ × Progress σ :=
  let (result, state) := compiler.compile schema p.cache p.state
  let p := { p with state := state }
  match result with
  | .error (.invalid reason) => (.failed (.invalidSchema reason), p)
  | .error (.missing uris) => (.needs uris, p)
  | .ok context =>
    match missingDocuments schema context with
    | .error e => (.failed e, p)
    | .ok [] => (.done context, p)
    | .ok uris => (.needs uris, p)

/-- At most so many calls of the compiler; no result means that they were not enough. -/
def compileWithin (compiler : Compiler σ κ) (net : Network)
    (arrival : List Cache.Request → List Cache.Request) (schema : Value) :
    Nat → Progress σ → Option (Except CompileError κ) × Progress σ
  | 0, p => (none, p)
  | calls + 1, p =>
    match attempt compiler schema p with
    | (.done context, p) => (some (.ok context), p)
    | (.failed e, p) => (some (.error e), p)
    | (.needs uris, p) =>
      match fetchMissing net arrival uris p with
      | (.ok (), p) => compileWithin compiler net arrival schema calls p
      | (.error e, p) => (some (.error e), p)

/-- What a compilation comes to. -/
structure Compilation (σ κ : Type) where
  result : Option (Except CompileError (Validator κ))
  requests : List Cache.Request
  registry : Registry σ κ

/-- Compiles a schema with at most so many calls of the compiler. Replies are taken in the order
of the requests. -/
def compile (r : Registry σ κ) (net : Network) (calls : Nat) (schema : Value) : Compilation σ κ :=
  let (result, p) := compileWithin r.compiler net id schema calls ⟨r.state, r.cache, [], []⟩
  ⟨result.map fun outcome => outcome.map (⟨schema, ·⟩), p.requests,
    { r with state := p.state, cache := p.cache }⟩

end Registry

end SchemaPipeline
