import SchemaPipeline.Engine.Context
import SchemaPipeline.Engine.Session
import SchemaPipeline.Schema.Resource

/-!
# Judges and documents

A judge turns a schema into a verdict on values, given the documents that the schema may refer to.
Whatever its rules are, the contexts around it are made here: a table of known documents is put
together from the schema and the documents at hand, every schema that names itself is entered under
its name, and each document of the table has a context of its own, whose verdict is made when it is
first asked for.

A context keeps the settings it was compiled with, so formats that are registered later do not
change it.
-/

namespace SchemaPipeline

/-- Why a schema has no verdict: in words and, if documents were asked for in vain, by their
names. -/
structure JudgeError where
  reason : String
  missing : List String

abbrev Verdict := Value → Inquiry Report

structure Judge where
  compile : Terms → Documents → Value → Except JudgeError Verdict

/-! ## The table of known documents -/

namespace Documents

/-- A table with a document under its name, and with the resources that it declares. -/
def addKnown (known : Documents) (name : String) (document : Value) : Documents :=
  let known := known.insertNew name document
  match Url.parse? name with
  | some base => Schema.indexResources document base known
  | none => known

/-- The documents that a schema can refer to, those that it holds itself first. -/
def known (schema : Value) (given : Documents) : Documents :=
  let own :=
    match Schema.baseUrl? schema with
    | some base => Schema.indexResources schema base empty
    | none => empty
  given.entries.foldl (fun d e => d.addKnown e.1 e.2) own

end Documents

/-! ## Contexts -/

/-- A document with its verdict, and what is needed to go on to other documents. -/
structure DocumentContext (J : Judge) where
  settings : Settings
  known : Documents
  schema : Value
  base : Option Url
  verdict : Thunk (Except JudgeError Verdict)

namespace DocumentContext

variable {J : Judge}

/-- The context of a document of the table. -/
def document? (c : DocumentContext J) (reference : String) : Option (DocumentContext J) :=
  let name := Reference.absolute c.base reference
  (c.known.find? name).map fun schema =>
    { settings := c.settings, known := c.known, schema := schema, base := Url.parse? name,
      verdict := Thunk.mk fun _ => J.compile c.settings.terms c.known schema }

/-- The schema that a fragment of the document names. -/
def fragment? (c : DocumentContext J) (fragment : String) : Option Value :=
  if fragment.isEmpty then some c.schema
  else if fragment.toList.head? = some '/' then
    (Pointer.ofFragment fragment).bind (·.resolve c.schema)
  else Schema.findAnchor fragment c.schema

def failure (e : JudgeError) : Report :=
  ⟨[⟨"", "schema could not be compiled: " ++ e.reason⟩]⟩

/-- The judgment on a value. -/
def judge (c : DocumentContext J) (v : Value) : Inquiry Report :=
  match c.verdict.get with
  | .ok verdict => verdict v
  | .error e => pure (failure e)

/-- The outcome for a value. Without asynchronous formats a single pass is all there is, and no
session has a part in it. -/
def outcome (c : DocumentContext J) (v : Value) : Outcome :=
  if c.settings.isDeferred then
    let s := c.settings.settle (c.judge v)
    ⟨true, s.result, s.checked⟩
  else ⟨false, ((c.judge v).runWith c.settings.answer none).1, []⟩

instance : SchemaContext (DocumentContext J) where
  schema c := c.schema
  validate := outcome
  fragment := fragment?
  document := document?

end DocumentContext

/-! ## Compiling -/

namespace Judge

/-- The context of a schema, or what keeps it from having one. -/
def context (J : Judge) (settings : Settings) (schema : Value) (given : Documents) :
    Except EngineError (DocumentContext J) :=
  let known := Documents.known schema given
  match J.compile settings.terms known schema with
  | .ok verdict =>
    .ok { settings := settings, known := known, schema := schema, base := Schema.baseUrl? schema,
          verdict := Thunk.pure (.ok verdict) }
  | .error e => .error (if e.missing.isEmpty then .invalid e.reason else .missing e.missing)

/-- The compiler of a judge; its state is its settings. -/
def compiler (J : Judge) : Compiler Settings (DocumentContext J) where
  compile schema documents settings := (J.context settings schema documents, settings)
  register f settings := settings.register f

end Judge

end SchemaPipeline
