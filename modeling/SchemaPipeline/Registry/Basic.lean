import SchemaPipeline.Agenda
import SchemaPipeline.Config.Basic
import SchemaPipeline.Engine.Context
import SchemaPipeline.Fetch.Cache
import SchemaPipeline.Transform.Defaults
import SchemaPipeline.Transform.Filling

/-!
# Registries

A registry has a compiler with its state, a cache of documents, and the transforms that run before
and after a validation. A new one has the built-in transforms that its configuration asks for.
-/

namespace SchemaPipeline

/-- When a transform runs: before the validation, or after it if it succeeds. -/
inductive Stage where
  | pre
  | post
deriving DecidableEq, Repr

namespace Stage

def name : Stage → String
  | .pre => "pre"
  | .post => "post"

end Stage

structure Registry (σ κ : Type) where
  config : Config
  compiler : Compiler σ κ
  state : σ
  cache : Cache
  pre : Agenda Visitor
  post : Agenda Visitor

namespace Registry

variable {σ κ : Type}

/-- The transforms of a stage. -/
def transforms (r : Registry σ κ) : Stage → Agenda Visitor
  | .pre => r.pre
  | .post => r.post

def withTransforms (r : Registry σ κ) (stage : Stage) (a : Agenda Visitor) : Registry σ κ :=
  match stage with
  | .pre => { r with pre := a }
  | .post => { r with post := a }

/-- Registers a transform in a stage, after the ones it names, or says why not. -/
def registerTransform (r : Registry σ κ) (stage : Stage) (v : Visitor) (after : List String) :
    Except AgendaError Unit × Registry σ κ :=
  let (answer, transforms) := (r.transforms stage).register v.name v after
  (answer, r.withTransforms stage transforms)

/-- The registry with one more transform. -/
def addTransform (r : Registry σ κ) (stage : Stage) (v : Visitor) (after : List String) :
    Except AgendaError (Registry σ κ) :=
  match r.registerTransform stage v after with
  | (.ok _, r) => .ok r
  | (.error e, _) => .error e

/-- The transforms of a stage that has one built in, or none. -/
def builtIn (wanted : Bool) (v : Visitor) : Agenda Visitor :=
  if wanted then (Agenda.empty.register v.name v []).2 else Agenda.empty

/-- A registry with nothing in it but the built-in transforms. -/
def new (config : Config) (compiler : Compiler σ κ) (state : σ) : Registry σ κ :=
  { config := config, compiler := compiler, state := state, cache := Documents.empty,
    pre := builtIn config.useDefaults Transform.defaults,
    post := builtIn config.fillUndefined Transform.filling }

/-- Registers a format for what is compiled from now on. -/
def addFormat (r : Registry σ κ) (f : Format) : Registry σ κ :=
  { r with state := r.compiler.register f r.state }

/-- Makes a document available without fetching it. -/
def addSchema (r : Registry σ κ) (uri : String) (document : Value) : Registry σ κ :=
  { r with cache := r.cache.put uri document }

def fetch (r : Registry σ κ) (net : Network) (uri : String) :
    Except FetchError Value × Registry σ κ :=
  let (result, cache) := r.cache.fetch net uri
  (result, { r with cache := cache })

end Registry

end SchemaPipeline
