import SchemaPipeline.Url.Parser

/-!
# The documents that references name

A reference is a document part and, after the first `#`, a fragment. The document part is resolved
against a base URL; documents are then told apart by the normal form of the result, which has no
fragment. A text that is no URL is its own normal form up to the first `#`.
-/

namespace SchemaPipeline.Reference

/-- The document part and the fragment of a reference; no `#` means an empty fragment. -/
def split (reference : String) : String × String :=
  match Text.splitFirst '#' reference.toList with
  | some (document, fragment) => (String.ofList document, String.ofList fragment)
  | none => (reference, "")

/-- The name under which a document is known. -/
def normalize (uri : String) : String :=
  match Url.parse? uri with
  | some u => u.withoutFragment.text
  | none => (split uri).1

/-- The name of the document that a document part names, seen from a base. -/
def absolute (base : Option Url) (document : String) : String :=
  match base.bind (·.join? document) with
  | some u => normalize u.text
  | none => normalize document

end SchemaPipeline.Reference
