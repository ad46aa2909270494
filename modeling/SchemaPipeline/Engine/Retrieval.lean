import SchemaPipeline.Engine.Judge
import SchemaPipeline.Fresh

/-!
# What a judge asks for

A judge is given a retriever when it makes a verdict. It may ask for documents in any order, as
often as it likes, and what it asks next may depend on what it was told. The retriever answers from
the table of known documents and notes the names it does not have; if the judge gives up, these are
the documents that are missing.
-/

namespace SchemaPipeline

/-- What answers for the documents while a verdict is made. -/
structure Retriever where
  known : Documents
  missing : List String

/-- The document of a URI. If there is none, its name is noted, unless it has been noted before. -/
def Retriever.retrieve (r : Retriever) (uri : String) : Except String Value × Retriever :=
  let name := Reference.normalize uri
  match r.known.find? name with
  | some document => (.ok document, r)
  | none =>
    (.error ("schema '" ++ name ++ "' is not available locally"),
      { r with missing := addNew r.missing name })

/-- The making of a verdict, with the documents that are asked for on the way. -/
inductive Build where
  | done (outcome : Except String Verdict)
  | ask (uri : String) (next : Except String Value → Build)

namespace Build

def run : Build → Retriever → Except String Verdict × Retriever
  | .done outcome, r => (outcome, r)
  | .ask uri next, r => (next (r.retrieve uri).1).run (r.retrieve uri).2

/-- The URIs that are asked for, in their order. -/
def asked : Build → Retriever → List String
  | .done _, _ => []
  | .ask uri next, r => uri :: (next (r.retrieve uri).1).asked (r.retrieve uri).2

end Build

/-- A judge that makes its verdicts by builds. -/
def Judge.ofBuilds (builds : Terms → Value → Build) : Judge where
  compile terms known schema :=
    match (builds terms schema).run ⟨known, []⟩ with
    | (.ok verdict, _) => .ok verdict
    | (.error reason, r) => .error ⟨reason, r.missing⟩

end SchemaPipeline
