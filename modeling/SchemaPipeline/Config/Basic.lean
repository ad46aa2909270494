import SchemaPipeline.Schema.Draft

/-!
# Configurations

What can be set about a registry. Every field has a default, so an empty source is a configuration.
-/

namespace SchemaPipeline

structure Config where
  draft : DraftChoice
  validateFormats : Bool
  useDefaults : Bool
  fillUndefined : Bool
  fetchTimeoutSecs : Nat
  userAgent : String
deriving DecidableEq, Repr

namespace Config

def defaultUserAgent : String := "jsreg/0.1.0"

def default : Config := ⟨none, true, true, true, 30, defaultUserAgent⟩

instance : Inhabited Config := ⟨default⟩

/-- The default configuration with neither built-in transform. -/
def withoutTransforms : Config := { default with useDefaults := false, fillUndefined := false }

/-- Whether the user agent can be sent as a header: no control character but the tab. -/
def hasValidUserAgent (c : Config) : Bool :=
  c.userAgent.toList.all fun ch => ch == '\t' || (0x20 ≤ ch.toNat && ch.toNat != 0x7f)

end Config

end SchemaPipeline
