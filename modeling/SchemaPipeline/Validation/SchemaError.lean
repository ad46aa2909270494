import SchemaPipeline.Uri.Resolve
import SchemaPipeline.Validation.Fault

/-!
# Errors of schemas

Why a schema cannot be judged by: a reference that leads nowhere, an identifier that is none, a
document that is not at hand, a keyword with a value that is refused, or a rejection by the
metaschema.
-/

namespace SchemaPipeline

inductive SchemaError where
  | noTarget (pointer : String)
  | badIndex (index pointer : String)
  | badEncoding (pointer : String)
  | noAnchor (name : String)
  | badAnchor (name : String)
  | badReference (reference : String) (cause : UriError)
  | badBase (reference base : String) (cause : Uri.ResolveFault)
  | notAvailable (uri key : String)
  | notLoaded (uri : String)
  | unknownDraft (name : String) (key : Option String)
  | malformed (fault : Fault) (value : Value)
  | rejected (reason : String)

namespace SchemaError

def absent (uri reason : String) : String :=
  "Resource '" ++ uri ++ "' is not present in a registry and retrieving it failed: " ++ reason

def message : SchemaError → String
  | .noTarget pointer => "Pointer '" ++ pointer ++ "' does not exist"
  | .badIndex index pointer =>
    "Failed to parse array index '" ++ index ++ "' in pointer '" ++ pointer ++ "'"
  | .badEncoding pointer =>
    "Invalid percent encoding in pointer '" ++ pointer ++
      "': the decoded bytes do not represent valid UTF-8"
  | .noAnchor name => "Anchor '" ++ name ++ "' does not exist"
  | .badAnchor name => "Anchor '" ++ name ++ "' is invalid"
  | .badReference reference cause =>
    "Invalid URI reference '" ++ reference ++ "': " ++ cause.message
  | .badBase reference base cause =>
    "Failed to resolve '" ++ reference ++ "' against '" ++ base ++ "': " ++ cause.message
  | .notAvailable uri key => absent uri ("schema '" ++ key ++ "' is not available locally")
  | .notLoaded uri =>
    absent uri "Retrieving external resources is not supported once the registry is populated"
  | .unknownDraft name _ => "Unknown specification: " ++ name
  | .malformed fault value => fault.message value
  | .rejected reason => reason

/-- The document that was asked for and is not at hand, under its name. -/
def missing? : SchemaError → Option String
  | .notAvailable _ key => some key
  | .unknownDraft _ key => key
  | _ => none

end SchemaError

end SchemaPipeline
