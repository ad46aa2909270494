import SchemaPipeline.Config.Basic
import SchemaPipeline.Engine.Format

/-!
# Settings

What a schema is compiled with. A judge is told of it what there is to know about a schema: a format
is a name to it, and what stands behind the name is none of its business.
-/

namespace SchemaPipeline

/-- The settings of a validation. -/
structure Settings where
  draft : DraftChoice
  validateFormats : Bool
  formats : List Format

/-- The settings as a judge knows them. -/
structure Terms where
  draft : DraftChoice
  validateFormats : Bool
  formats : List String
deriving DecidableEq, Repr

namespace Settings

/-- The settings of a configuration, without formats. -/
def ofConfig (c : Config) : Settings := ⟨c.draft, c.validateFormats, []⟩

/-- The settings with one more format. -/
def register (s : Settings) (f : Format) : Settings :=
  { s with formats := Format.register s.formats f }

def names (s : Settings) : List String := s.formats.map Format.name

def terms (s : Settings) : Terms := ⟨s.draft, s.validateFormats, s.names⟩

/-- The formats whose verdicts have to be waited for. -/
def deferred (s : Settings) : List Format :=
  if s.validateFormats then s.formats.filter Format.isAsync else []

def isDeferred (s : Settings) : Bool := !s.deferred.isEmpty

/-- The verdict that is waited for; a format that is not waited for accepts. -/
def verdict (s : Settings) (q : FormatQuery) : Bool :=
  match Format.find? s.deferred q.format with
  | some f => (f.check q.data).verdict
  | none => true

end Settings

end SchemaPipeline
