import Mathlib.Data.List.Pairwise
import SchemaPipeline.Proofs.Formats.Synchronous
import SchemaPipeline.Proofs.Schema.Tree
import SchemaPipeline.Reference.Resolution

/-!
# The table of known documents

The table is filled document by document, and a name that is taken keeps its
document. A document takes its own name and the names that it declares inside,
so two documents can be after the same name. `find?_known` says who gets it: the
schema itself before all others, and then the first document in the order in
which they come that has something to offer.

So the order makes no difference exactly where documents that offer something
under a name that the schema leaves open offer the same. Then it makes no
difference to anything else either: a judge looks documents up, and contexts in
tables that answer alike lead to the same targets.
-/

namespace SchemaPipeline

theorem Members.find?_append (ms ns : Members) (key : String) :
    find? (ms ++ ns) key = (find? ms key).or (find? ns key) := by
  induction ms with
  | nil => rfl
  | cons e rest ih =>
      rw [List.cons_append, find?, find?]
      split
      · rfl
      · exact ih

namespace Documents

/-! ## Who gets a name -/

theorem find?_insertNew (d : Documents) (name : String) (document : Value)
    (key : String) : (d.insertNew name document).find? key =
      (d.find? key).or (Members.find? [(name, document)] key) := by
  unfold insertNew
  split
  · next htaken =>
      by_cases hname : name = key
      · subst hname
        obtain ⟨v, hv⟩ := Option.isSome_iff_exists.1 htaken
        rw [hv]
        rfl
      · simp [Members.find?, hname]
  · exact Members.find?_append ..

theorem find?_insertAllNew (d : Documents) (entries : List (String × Value))
    (key : String) : (d.insertAllNew entries).find? key =
      (d.find? key).or (Members.find? entries key) := by
  induction entries generalizing d with
  | nil => simp [insertAllNew, Members.find?]
  | cons e rest ih =>
      rw [show d.insertAllNew (e :: rest) =
        (d.insertNew e.1 e.2).insertAllNew rest from rfl, ih, find?_insertNew,
        Option.or_assoc, ← Members.find?_append, List.singleton_append]

/-- What a document puts into the table: itself, and the resources that it
declares. -/
def contribution (e : String × Value) : List (String × Value) :=
  e :: match Url.parse? e.1 with
    | some base => Schema.declared base e.2.schemaTree
    | none => []

/-- What a document has to offer under a name. -/
def offer (name : String) (e : String × Value) : Option Value :=
  Members.find? (contribution e) name

/-- The resources that a schema holds itself. -/
def own (schema : Value) : Documents := known schema empty

theorem find?_addKnown (d : Documents) (e : String × Value) (key : String) :
    (d.addKnown e.1 e.2).find? key = (d.find? key).or (offer key e) := by
  have hcons : Members.find? (contribution e) key =
      (Members.find? [e] key).or
        (Members.find? (contribution e).tail key) := by
    rw [← Members.find?_append]
    rfl
  rw [offer, hcons, ← Option.or_assoc, ← find?_insertNew]
  unfold addKnown contribution
  cases Url.parse? e.1 with
  | none => simp
  | some base => exact find?_insertAllNew ..

theorem find?_addAllKnown (d : Documents) (entries : List (String × Value))
    (key : String) :
    (entries.foldl (fun d e => d.addKnown e.1 e.2) d).find? key =
      (d.find? key).or (entries.findSome? (offer key)) := by
  induction entries generalizing d with
  | nil => simp
  | cons e rest ih =>
      rw [List.foldl_cons, ih, find?_addKnown, Option.or_assoc,
        List.findSome?_cons]
      cases offer key e <;> rfl

/-- A name belongs to the schema itself, and then to the first document that
has something to offer. -/
theorem find?_known (schema : Value) (given : Documents) (name : String) :
    (known schema given).find? name =
      ((own schema).find? name).or (given.entries.findSome? (offer name)) := by
  unfold own known
  simp only [empty, List.foldl_nil]
  rw [find?_addAllKnown]

/-! ## The order of the documents -/

/-- Documents that offer the same under each name that a schema leaves open. -/
def Concordant (schema : Value) (entries : List (String × Value)) : Prop :=
  ∀ name, (own schema).find? name = none →
    ∀ e ∈ entries, ∀ v ∈ offer name e, ∀ e' ∈ entries, ∀ v' ∈ offer name e',
      v = v'

/-- The names that a document is after. -/
def claims (e : String × Value) : List String := (contribution e).map Prod.fst

theorem mem_claims_of_offer {name : String} {e : String × Value} {v : Value}
    (h : v ∈ offer name e) : name ∈ claims e :=
  List.mem_map_of_mem (f := Prod.fst) (Members.mem_of_find? h)

/-- Documents that are not after the same names agree. -/
theorem concordant_of_apart (schema : Value) {entries : List (String × Value)}
    (h : entries.Pairwise fun e e' => ∀ name ∈ claims e, name ∉ claims e') :
    Concordant schema entries := by
  intro name _ e he v hv e' he' v' hv'
  by_cases heq : e = e'
  · subst heq
    exact Option.some.inj (hv.symm.trans hv')
  · have : Std.Symm fun e e' => ∀ name ∈ claims e, name ∉ claims e' :=
      ⟨fun _ _ hapart name hmem hmem' => hapart name hmem' hmem⟩
    exact absurd (mem_claims_of_offer hv')
      (h.forall he he' heq name (mem_claims_of_offer hv))

theorem findSome?_of_concordant {schema : Value}
    {entries order : List (String × Value)} (h : Concordant schema entries)
    (hperm : order.Perm entries) {name : String}
    (hopen : (own schema).find? name = none) :
    order.findSome? (offer name) = entries.findSome? (offer name) := by
  cases hfirst : entries.findSome? (offer name) with
  | none =>
      rw [List.findSome?_eq_none_iff] at hfirst ⊢
      exact fun e he => hfirst e (hperm.mem_iff.1 he)
  | some v =>
      obtain ⟨e, he, hv⟩ := List.exists_of_findSome?_eq_some hfirst
      have hsome : (order.findSome? (offer name)).isSome = true :=
        List.findSome?_isSome_iff.2
          ⟨e, hperm.mem_iff.2 he, Option.isSome_iff_exists.2 ⟨v, hv⟩⟩
      obtain ⟨v', hfirst'⟩ := Option.isSome_iff_exists.1 hsome
      obtain ⟨e', he', hv'⟩ := List.exists_of_findSome?_eq_some hfirst'
      rw [hfirst', h name hopen e he v hv e' (hperm.mem_iff.1 he') v' hv']

/-- The order in which a document comes first. -/
theorem exists_perm_cons {entries : List (String × Value)}
    {e : String × Value} (he : e ∈ entries) :
    ∃ rest, (e :: rest).Perm entries := by
  obtain ⟨before, after, rfl⟩ := List.append_of_mem he
  exact ⟨before ++ after, List.perm_middle.symm⟩

/-- The order of the documents makes no difference to the table exactly where
the documents agree. -/
theorem find?_perm_iff (schema : Value) (given : Documents) :
    (∀ order, order.Perm given.entries → ∀ name,
        (known schema ⟨order⟩).find? name = (known schema given).find? name) ↔
      Concordant schema given.entries := by
  constructor
  · intro h name hopen
    -- Every document that offers something can be made the first one.
    have hoffer : ∀ e ∈ given.entries, ∀ v ∈ offer name e,
        (known schema given).find? name = some v := by
      intro e he v hv
      obtain ⟨rest, hperm⟩ := exists_perm_cons he
      rw [← h _ hperm, find?_known, hopen, Option.none_or,
        List.findSome?_cons, Option.mem_def.1 hv]
    intro e he v hv e' he' v' hv'
    exact Option.some.inj
      ((hoffer e he v hv).symm.trans (hoffer e' he' v' hv'))
  · intro h order hperm name
    rw [find?_known, find?_known]
    cases hown : (own schema).find? name with
    | some v => rfl
    | none => rw [findSome?_of_concordant h hperm hown]

end Documents

/-! ## Tables that answer alike -/

/-- A judge that makes no other use of a table than to look documents up. -/
def Judge.LooksUp (J : Judge) : Prop :=
  ∀ settings known known' schema,
    (∀ name, known.find? name = known'.find? name) →
      J.compile settings known schema = J.compile settings known' schema

theorem Standard.judge_looksUp : Standard.judge.LooksUp := by
  intro settings known known' schema h
  simp only [Standard.judge, show known.find? = known'.find? from funext h]

namespace DocumentContext

variable {J : Judge}

/-- Where a reference leads, seen from a context that can be reached. -/
def targets (c : DocumentContext J) (references : List String)
    (reference : String) : Option (Except ReferenceError Value) :=
  (c.reach references).map fun d =>
    (Reference.resolveIn reference d).map Reference.Target.schema

/-- Contexts of one document that stay related from reference to reference. -/
structure Lockstep (R : DocumentContext J → DocumentContext J → Prop) :
    Prop where
  schema {c c' : DocumentContext J} : R c c' → c.schema = c'.schema
  document? {c c' : DocumentContext J} : R c c' → ∀ reference,
    Option.Rel R (c.document? reference) (c'.document? reference)

namespace Lockstep

variable {R : DocumentContext J → DocumentContext J → Prop}
  {c c' : DocumentContext J}

theorem fragment? (hR : Lockstep R) (h : R c c') (fragment : String) :
    c.fragment? fragment = c'.fragment? fragment := by
  simp only [DocumentContext.fragment?, hR.schema h]

theorem reach (hR : Lockstep R) (h : R c c') (references : List String) :
    Option.Rel R (c.reach references) (c'.reach references) := by
  induction references generalizing c c' with
  | nil => exact .some h
  | cons reference rest ih =>
      rw [DocumentContext.reach, DocumentContext.reach]
      have hdocument := hR.document? h reference
      generalize c.document? reference = d, c'.document? reference = d'
        at hdocument ⊢
      cases hdocument with
      | none => exact .none
      | some hrelated => exact ih hrelated

theorem select (hR : Lockstep R) (h : R c c') (document : String) :
    Option.Rel R (Reference.select c document)
      (Reference.select c' document) := by
  unfold Reference.select
  split
  · exact .some h
  · exact hR.document? h document

theorem resolveIn (hR : Lockstep R) (h : R c c') (reference : String) :
    (Reference.resolveIn reference c).map Reference.Target.schema =
      (Reference.resolveIn reference c').map Reference.Target.schema := by
  simp only [Reference.resolveIn]
  have hselect := hR.select h (Reference.split reference).1
  generalize Reference.select c (Reference.split reference).1 = d,
    Reference.select c' (Reference.split reference).1 = d' at hselect ⊢
  cases hselect with
  | none => rfl
  | some hrelated =>
      simp only [SchemaContext.fragment, hR.fragment? hrelated]
      split <;> rfl

/-- They lead to the same targets. -/
theorem targets (hR : Lockstep R) (h : R c c') : c.targets = c'.targets := by
  funext references reference
  unfold DocumentContext.targets
  have hreach := hR.reach h references
  generalize c.reach references = d, c'.reach references = d' at hreach ⊢
  cases hreach with
  | none => rfl
  | some hrelated => exact congrArg some (hR.resolveIn hrelated reference)

end Lockstep

/-- Contexts of one document, in tables that answer alike. -/
structure Equal (c c' : DocumentContext J) : Prop where
  settings : c.settings = c'.settings
  known : ∀ name, c.known.find? name = c'.known.find? name
  schema : c.schema = c'.schema
  base : c.base = c'.base
  verdict : c.verdict.get = c'.verdict.get

namespace Equal

variable {c c' : DocumentContext J}

theorem outcome (h : Equal c c') (v : Value) : c.outcome v = c'.outcome v := by
  simp only [DocumentContext.outcome, judge, h.settings, h.verdict]

theorem lockstep (hJ : J.LooksUp) : Lockstep (J := J) Equal where
  schema h := h.schema
  document? {c c'} h reference := by
    simp only [DocumentContext.document?, h.base, h.known]
    cases c'.known.find? (Reference.absolute c'.base reference) with
    | none => exact .none
    | some schema =>
        refine .some ⟨h.settings, h.known, rfl, rfl, ?_⟩
        show J.compile c.settings.terms c.known schema =
          J.compile c'.settings.terms c'.known schema
        rw [h.settings, hJ c'.settings.terms c.known c'.known schema h.known]

theorem reports (hJ : J.LooksUp) (h : Equal c c') :
    c.reports = c'.reports := by
  funext references v
  unfold DocumentContext.reports
  have hreach := (lockstep hJ).reach h references
  generalize c.reach references = d, c'.reach references = d' at hreach ⊢
  cases hreach with
  | none => rfl
  | some hequal => simp only [Option.map_some, hequal.outcome]

end Equal

end DocumentContext

namespace Judge

open DocumentContext

/-- The same error, or contexts that lead to the same targets and report the
same. -/
def Indistinguishable {J : Judge}
    (a b : Except EngineError (DocumentContext J)) : Prop :=
  a.map targets = b.map targets ∧ a.map reports = b.map reports

/-- Tables that answer alike have indistinguishable contexts. -/
theorem context_of_find? {J : Judge} (hJ : J.LooksUp) (settings : Settings)
    {schema : Value} {given given' : Documents}
    (h : ∀ name, (Documents.known schema given).find? name =
      (Documents.known schema given').find? name) :
    Indistinguishable (J.context settings schema given)
      (J.context settings schema given') := by
  unfold Judge.context
  simp only [hJ settings.terms _ _ schema h]
  cases J.compile settings.terms (Documents.known schema given') schema with
  | error e => exact ⟨rfl, rfl⟩
  | ok verdict =>
      have hequal : DocumentContext.Equal (J := J)
          ⟨settings, .known schema given, schema, Schema.baseUrl? schema,
            Thunk.pure (.ok verdict)⟩
          ⟨settings, .known schema given', schema, Schema.baseUrl? schema,
            Thunk.pure (.ok verdict)⟩ :=
        ⟨rfl, h, rfl, rfl, rfl⟩
      exact ⟨congrArg Except.ok ((Equal.lockstep hJ).targets hequal),
        congrArg Except.ok (hequal.reports hJ)⟩

/-- The order in which the documents of a set are taken makes no difference to
the table exactly where no two of them offer different schemas under a name
that the schema leaves open, and then it makes none to what the schema is
compiled to by a judge that looks documents up in it. -/
theorem order_free_iff_concordant (schema : Value) (given : Documents) :
    ((∀ order, order.Perm given.entries → ∀ name,
          (Documents.known schema ⟨order⟩).find? name =
            (Documents.known schema given).find? name) ↔
        Documents.Concordant schema given.entries) ∧
      (Documents.Concordant schema given.entries → ∀ J : Judge, J.LooksUp →
        ∀ order, order.Perm given.entries → ∀ settings,
          Indistinguishable (J.context settings schema ⟨order⟩)
            (J.context settings schema given)) := by
  have hiff := Documents.find?_perm_iff schema given
  exact ⟨hiff, fun hconcordant J hJ order hperm settings =>
    context_of_find? hJ settings (hiff.2 hconcordant order hperm)⟩

/-- A document with a definition. -/
def claimed : String × Value :=
  ("file:///b.json", .object [("definitions", .object [("x", .object
    [("type", .string "integer")])])])

/-- A document that refers to another one. -/
def referring : String × Value :=
  ("file:///a.json", .object [("items", .object
    [("$ref", .string "b.json")])])

theorem order_free_iff_concordant_referring :
    Indistinguishable
      (Standard.judge.context (Settings.ofConfig .default) .null
        ⟨[claimed, referring]⟩)
      (Standard.judge.context (Settings.ofConfig .default) .null
        ⟨[referring, claimed]⟩) :=
  (order_free_iff_concordant .null ⟨[referring, claimed]⟩).2
    (Documents.concordant_of_apart _ (by decide +kernel)) Standard.judge
    Standard.judge_looksUp _ (.swap ..) _

/-! ## Two documents after the same name -/

/-- A document that declares the name of that one. -/
def claimant : String × Value :=
  ("file:///a.json", .object [("$defs", .object [("q", .object
    [("$id", .string "file:///b.json")])])])

/-- Under the name stands the document that comes first. -/
theorem exists_order_dependent :
    ¬ ∀ (schema : Value) (given : Documents) (order : List (String × Value)),
      given.names.Nodup → (∀ name ∈ given.names, Reference.normalize name = name) →
      order.Perm given.entries → ∀ name,
        (Documents.known schema ⟨order⟩).find? name =
          (Documents.known schema given).find? name := by
  intro h
  have hfirst : (Documents.known .null ⟨[claimed, claimant]⟩).find?
      "file:///b.json" = some claimed.2 := by decide +kernel
  have hlast : (Documents.known .null ⟨[claimant, claimed]⟩).find?
      "file:///b.json" ≠ some claimed.2 := by decide +kernel
  exact hlast ((h .null ⟨[claimed, claimant]⟩ [claimant, claimed]
    (by decide +kernel) (by decide +kernel) (.swap ..) _).trans hfirst)

end Judge

end SchemaPipeline
