import SchemaPipeline.Proofs.Registry.Coverage
import SchemaPipeline.Proofs.Schema.Resources
import SchemaPipeline.Proofs.Validation.Lookup

/-!
# One call of the compiler

What a call of the compiler leads to depends on the schema and on the table of
documents alone. `Judge.examine` says it as a function of the table, and here is
what a larger table can change about it. What has been accepted is accepted, and
what has failed fails. Where documents were missing, the same ones are missing
as long as none of them has come, and as long as one of them has not come there
is no success.

The check of references sees a reference from the resource that holds it. That
resource has to be found first, and if the schema does not hold it under the
identifiers that lead to it, another document may be found in its place as soon
as there is one. A schema is `Sighted` if this cannot happen.
-/

namespace SchemaPipeline

open Registry Schema

/-! ## The check of references as one scan -/

namespace Registry

section

variable {κ : Type} [SchemaContext κ]

/-- What is to be done about each reference of a schema, in document order. -/
def states (schema : Value) (c : κ) : List (String × ReferenceState) :=
  (collectReferences schema).flatMap fun r =>
    r.references.map fun reference =>
      (reference, referenceState (enterScope (baseUrl? schema) c r.scope).1
        (enterScope (baseUrl? schema) c r.scope).2 reference)

end

/-- The documents that are missing, each once; the first broken reference is an
error. -/
def scan : List (String × ReferenceState) → List String →
    Except CompileError (List String)
  | [], missing => .ok missing
  | (_, .resolved) :: rest, missing => scan rest missing
  | (_, .missing uri) :: rest, missing => scan rest (addNew missing uri)
  | (reference, .broken reason) :: _, _ => .error (.unresolved reference reason)

theorem scan_append (xs ys : List (String × ReferenceState))
    (missing : List String) :
    scan (xs ++ ys) missing = scan xs missing >>= scan ys := by
  induction xs generalizing missing with
  | nil => rfl
  | cons x rest ih =>
      obtain ⟨reference, state⟩ := x
      cases state with
      | resolved => exact ih missing
      | missing uri => exact ih _
      | broken reason => rfl

section

variable {κ : Type} [SchemaContext κ]

theorem missingOf_eq (base : Option Url) (c : κ) (references missing : List String) :
    missingOf base c references missing =
      scan (references.map fun r => (r, referenceState base c r)) missing := by
  induction references generalizing missing with
  | nil => rfl
  | cons reference rest ih =>
      rw [missingOf, List.map_cons]
      cases referenceState base c reference with
      | resolved => exact ih missing
      | missing uri => exact ih _
      | broken reason => rfl

theorem missingFrom_eq (base : Option Url) (c : κ)
    (resources : List ResourceReferences) (missing : List String) :
    missingFrom base c resources missing =
      scan (resources.flatMap fun r => r.references.map fun reference =>
        (reference, referenceState (enterScope base c r.scope).1
          (enterScope base c r.scope).2 reference)) missing := by
  induction resources generalizing missing with
  | nil => rfl
  | cons r rest ih =>
      rw [List.flatMap_cons, scan_append, ← missingOf_eq]
      simp only [missingFrom]
      cases missingOf (enterScope base c r.scope).1
          (enterScope base c r.scope).2 r.references missing with
      | ok missing => exact ih missing
      | error e => rfl

theorem missingDocuments_eq (schema : Value) (c : κ) :
    missingDocuments schema c = scan (states schema c) [] :=
  missingFrom_eq ..

end

/-! ## Scans over a table and a larger one -/

/-- A table with more documents, all of them under names that can be fetched. -/
structure Enlarges (known larger : Documents) : Prop where
  kept : Library.Source.Within known.find? larger.find?
  remote : ∀ name, known.find? name = none → larger.find? name ≠ none →
    isRemote name = true

theorem Enlarges.refl (known : Documents) : Enlarges known known :=
  ⟨fun _ _ h => h, fun _ h h' => absurd h h'⟩

/-- What a larger table changes about a reference. Only one whose document was
missing and has come is in another state. -/
inductive Grows (known larger : Documents) :
    ReferenceState → ReferenceState → Prop where
  | resolved : Grows known larger .resolved .resolved
  | broken (reason reason' : String) :
    Grows known larger (.broken reason) (.broken reason')
  | missing {uri : String} (h : known.find? uri = none)
    (h' : larger.find? uri = none) :
    Grows known larger (.missing uri) (.missing uri)
  | come {uri : String} (h : known.find? uri = none)
    (h' : larger.find? uri ≠ none) (state : ReferenceState) :
    Grows known larger (.missing uri) state

/-- The same references, in states that a larger table may have changed. -/
abbrev Later (known larger : Documents) :
    List (String × ReferenceState) → List (String × ReferenceState) → Prop :=
  List.Forall₂ fun x y => Grows known larger x.2 y.2

variable {known larger : Documents} {xs ys : List (String × ReferenceState)}
  {missing missing' names names' : List String}

theorem subset_of_scan (h : scan xs missing = .ok names) : missing ⊆ names := by
  induction xs generalizing missing with
  | nil =>
      cases h
      exact List.Subset.refl _
  | cons x rest ih =>
      obtain ⟨reference, state⟩ := x
      cases state with
      | resolved => exact ih h
      | missing uri =>
          exact List.Subset.trans (fun n hn => mem_addNew.2 (.inl hn)) (ih h)
      | broken reason => cases h

theorem nodup_of_scan (h : scan xs missing = .ok names)
    (hmissing : missing.Nodup) : names.Nodup := by
  induction xs generalizing missing with
  | nil =>
      cases h
      exact hmissing
  | cons x rest ih =>
      obtain ⟨reference, state⟩ := x
      cases state with
      | resolved => exact ih h hmissing
      | missing uri => exact ih h (nodup_addNew uri hmissing)
      | broken reason => cases h

/-- What a scan adds is not in the table. -/
theorem absent_of_scan (hlater : Later known larger xs ys)
    (h : scan xs missing = .ok names) {name : String} (hname : name ∈ names) :
    name ∈ missing ∨ known.find? name = none := by
  induction hlater generalizing missing with
  | nil =>
      cases h
      exact .inl hname
  | @cons x y _ _ hgrows _ ih =>
      obtain ⟨reference, state⟩ := x
      obtain ⟨reference', state'⟩ := y
      cases hgrows with
      | resolved => exact ih h
      | broken reason => cases h
      | missing hnone | come hnone =>
          rcases ih h with hmem | hnone'
          · rcases mem_addNew.1 hmem with hmem | rfl
            · exact .inl hmem
            · exact .inr hnone
          · exact .inr hnone'

theorem scan_error (hlater : Later known larger xs ys) {e : CompileError}
    (h : scan xs missing = .error e) :
    ∃ e', scan ys missing' = .error e' := by
  induction hlater generalizing missing missing' with
  | nil => cases h
  | @cons x y _ _ hgrows _ ih =>
      obtain ⟨reference, state⟩ := x
      obtain ⟨reference', state'⟩ := y
      cases hgrows with
      | resolved => exact ih h
      | broken reason reason' => exact ⟨_, rfl⟩
      | missing hnone hnone' => exact ih h
      | come hnone hcome =>
          cases state' with
          | resolved => exact ih h
          | missing uri => exact ih h
          | broken reason => exact ⟨_, rfl⟩

/-- If nothing that is missing has come, the scan goes the same way. -/
theorem scan_same (hlater : Later known larger xs ys)
    (h : scan xs missing = .ok names)
    (hnone : ∀ name ∈ names, larger.find? name = none) :
    scan ys missing = .ok names := by
  induction hlater generalizing missing with
  | nil => exact h
  | @cons x y rest _ hgrows _ ih =>
      obtain ⟨reference, state⟩ := x
      obtain ⟨reference', state'⟩ := y
      cases hgrows with
      | resolved => exact ih h
      | broken reason => cases h
      | missing => exact ih h
      | @come uri _ hcome =>
          have hrest : scan rest (addNew missing uri) = .ok names := h
          have hmem := subset_of_scan hrest (mem_addNew.2 (.inr rfl))
          exact absurd (hnone uri hmem) hcome

/-- What has not come is missing again. -/
theorem mem_of_scan (hlater : Later known larger xs ys)
    (h : scan xs missing = .ok names) (h' : scan ys missing' = .ok names')
    (hold : ∀ name ∈ missing, larger.find? name = none → name ∈ missing')
    {name : String} (hname : name ∈ names)
    (hnone : larger.find? name = none) : name ∈ names' := by
  induction hlater generalizing missing missing' with
  | nil =>
      cases h
      cases h'
      exact hold name hname hnone
  | @cons x y _ _ hgrows _ ih =>
      obtain ⟨reference, state⟩ := x
      obtain ⟨reference', state'⟩ := y
      cases hgrows with
      | resolved => exact ih h h' hold
      | broken reason => cases h
      | missing =>
          refine ih h h' fun n hn hn' => mem_addNew.2 ?_
          exact (mem_addNew.1 hn).imp_left fun hn => hold n hn hn'
      | @come uri _ hcome =>
          have hpast : ∀ n ∈ addNew missing uri, larger.find? n = none →
              n ∈ missing' := by
            intro n hn hn'
            rcases mem_addNew.1 hn with hn | rfl
            · exact hold n hn hn'
            · exact absurd hn' hcome
          cases state' with
          | resolved => exact ih h h' hpast
          | missing uri' =>
              exact ih h h' fun n hn hn' => mem_addNew.2 (.inl (hpast n hn hn'))
          | broken reason => cases h'

end Registry

/-! ## Seeing references in a larger table -/

namespace Schema

/-- Every resource is found in the schema itself, and seen from there documents
have the names that the references of the resource ask for. -/
def Sighted (schema : Value) : Prop :=
  ∀ r ∈ collectReferences schema, ∃ d,
    (Validator.lenientContext schema).reach r.scope = some d ∧
      ∀ reference ∈ r.references,
        Reference.absolute d.base (Reference.split reference).1 =
          Reference.absolute (address schema r.scope)
            (Reference.split reference).1

end Schema

theorem lenientContext_known (schema : Value) :
    (Validator.lenientContext schema).known = Documents.own schema := by
  simp only [Validator.lenientContext, Documents.own]

theorem Schema.absolute_of_bind {base base' : Option Url}
    (h : ∀ text, base.bind (·.join? text) = base'.bind (·.join? text))
    (document : String) :
    Reference.absolute base document = Reference.absolute base' document := by
  simp only [Reference.absolute, h]

/-- A schema is sighted if its resources are found under their addresses. -/
theorem Schema.sighted_of_addressed {schema : Value}
    (haddressed : Addressed schema) (hsteady : Steady schema) :
    Sighted schema := by
  intro r hr
  have hscope : r.scope ∈ (resources schema).map Prod.fst := by
    rw [← collectReferences_scopes]
    exact List.mem_map_of_mem hr
  obtain ⟨e, he, heq⟩ := List.mem_map.1 hscope
  have hat : DocumentContext.At schema .empty ([], schema)
      (Validator.lenientContext schema) :=
    ⟨lenientContext_known schema, rfl, fun _ => rfl⟩
  obtain ⟨d, hd, hat'⟩ :=
    DocumentContext.reach_at haddressed hsteady hat e he
  rw [← heq]
  exact ⟨d, hd, fun reference _ => absolute_of_bind hat'.base _⟩

namespace DocumentContext

variable {J J' : Judge}

/-- The same document, seen in a larger table and under another judge. -/
structure Again (d : DocumentContext J) (c : DocumentContext J') : Prop where
  schema : c.schema = d.schema
  base : c.base = d.base
  known : Library.Source.Within d.known.find? c.known.find?

theorem Again.document? {d d' : DocumentContext J} {c : DocumentContext J'}
    (h : Again d c) {reference : String}
    (hd : d.document? reference = some d') :
    ∃ c', c.document? reference = some c' ∧ Again d' c' ∧
      c'.known = c.known := by
  simp only [DocumentContext.document?] at hd ⊢
  obtain ⟨schema, hfind, rfl⟩ := Option.map_eq_some_iff.1 hd
  rw [h.base, h.known _ _ hfind]
  exact ⟨_, rfl, ⟨rfl, rfl, h.known⟩, rfl⟩

theorem Again.enterScope {d d' : DocumentContext J} {c : DocumentContext J'}
    (h : Again d c) {scope : List String} (hd : d.reach scope = some d')
    (base : Option Url) :
    Again d' (enterScope base c scope).2 ∧
      (Registry.enterScope base c scope).2.known = c.known := by
  induction scope generalizing d c base with
  | nil =>
      cases hd
      exact ⟨h, rfl⟩
  | cons id rest ih =>
      rw [reach] at hd
      obtain ⟨next, hnext, hrest⟩ := Option.bind_eq_some_iff.1 hd
      obtain ⟨c', hc', hagain, hknown⟩ := h.document? hnext
      have hstep := ih hagain hrest (base.bind (·.join? id))
      rw [← hknown]
      simpa only [Registry.enterScope, List.foldl_cons, SchemaContext.document,
        hc', Option.getD_some] using hstep

theorem enterScope_base (base : Option Url) (c : DocumentContext J)
    (scope : List String) :
    (Registry.enterScope base c scope).1 = addressFrom base scope := by
  induction scope generalizing base c with
  | nil => rfl
  | cons id rest ih => exact ih ..

/-- What is to be done about a reference whose document is there. -/
def stateWithin (reference : String) (d : DocumentContext J) :
    ReferenceState :=
  match d.fragment? (Reference.split reference).2 with
  | some _ => .resolved
  | none =>
    .broken (ReferenceError.unknownFragment reference
      (Reference.split reference).2).message

theorem stateWithin_grows (known larger : Documents) (reference : String)
    {d d' : DocumentContext J} (h : d'.schema = d.schema) :
    Grows known larger (stateWithin reference d) (stateWithin reference d') := by
  simp only [stateWithin, fragment?, h]
  split
  · exact .resolved
  · exact .broken ..

theorem referenceState_some {c d : DocumentContext J} {base : Option Url}
    {reference : String}
    (h : Reference.select c (Reference.split reference).1 = some d) :
    referenceState base c reference = stateWithin reference d := by
  simp only [referenceState, Reference.resolveIn, h, SchemaContext.fragment,
    stateWithin]
  cases d.fragment? (Reference.split reference).2 <;> rfl

theorem referenceState_none {c : DocumentContext J} {base : Option Url}
    {reference : String}
    (h : Reference.select c (Reference.split reference).1 = none) :
    referenceState base c reference =
      if isRemote (Reference.absolute base (Reference.split reference).1) then
        .missing (Reference.absolute base (Reference.split reference).1)
      else .broken (ReferenceError.unknownDocument reference).message := by
  simp only [referenceState, Reference.resolveIn, h]

/-- A reference without a document is to the document that it stands in. -/
theorem referenceState_self {c : DocumentContext J} {base : Option Url}
    {reference : String}
    (h : (Reference.split reference).1.isEmpty = true) :
    referenceState base c reference = stateWithin reference c :=
  referenceState_some (by rw [Reference.select, if_pos h])

theorem select_document {c : DocumentContext J} {document : String}
    (h : document.isEmpty = false) :
    Reference.select c document = c.document? document := by
  rw [Reference.select, h]
  rfl

theorem referenceState_known {c : DocumentContext J} {base : Option Url}
    {reference : String} {schema : Value}
    (h : (Reference.split reference).1.isEmpty = false)
    (hfind : c.known.find? (Reference.absolute c.base
      (Reference.split reference).1) = some schema) :
    ∃ d : DocumentContext J, d.schema = schema ∧
      referenceState base c reference = stateWithin reference d := by
  obtain ⟨d, hd, hschema⟩ : ∃ d, c.document? (Reference.split reference).1 =
      some d ∧ d.schema = schema := by
    rw [document?, hfind]
    exact ⟨_, rfl, rfl⟩
  exact ⟨d, hschema, referenceState_some ((select_document h).trans hd)⟩

theorem referenceState_unknown {c : DocumentContext J} {base : Option Url}
    {reference : String}
    (h : (Reference.split reference).1.isEmpty = false)
    (hfind : c.known.find? (Reference.absolute c.base
      (Reference.split reference).1) = none) :
    referenceState base c reference =
      if isRemote (Reference.absolute base (Reference.split reference).1) then
        .missing (Reference.absolute base (Reference.split reference).1)
      else .broken (ReferenceError.unknownDocument reference).message := by
  refine referenceState_none ?_
  rw [select_document h, document?, hfind]
  rfl

/-- A larger table resolves what was resolved, and may have what was missing. -/
theorem referenceState_grows {c c' : DocumentContext J}
    (hschema : c'.schema = c.schema) (hbase : c'.base = c.base)
    (hlarger : Enlarges c.known c'.known) {base : Option Url}
    {reference : String}
    (hname : Reference.absolute c.base (Reference.split reference).1 =
      Reference.absolute base (Reference.split reference).1) :
    Grows c.known c'.known (referenceState base c reference)
      (referenceState base c' reference) := by
  cases hempty : (Reference.split reference).1.isEmpty with
  | true =>
      rw [referenceState_self hempty, referenceState_self hempty]
      exact stateWithin_grows _ _ _ hschema
  | false =>
      have hname' := hname
      rw [← hbase] at hname'
      cases hfind : c.known.find? (Reference.absolute base
          (Reference.split reference).1) with
      | some schema =>
          obtain ⟨d, hd, hstate⟩ := referenceState_known (c := c) hempty
            (hname ▸ hfind)
          obtain ⟨d', hd', hstate'⟩ := referenceState_known (c := c') hempty
            (hname' ▸ hlarger.kept _ _ hfind)
          rw [hstate, hstate']
          exact stateWithin_grows _ _ _ (hd'.trans hd.symm)
      | none =>
          rw [referenceState_unknown (c := c) hempty (hname ▸ hfind)]
          cases hcome : c'.known.find? (Reference.absolute base
              (Reference.split reference).1) with
          | none =>
              rw [referenceState_unknown (c := c') hempty (hname' ▸ hcome)]
              split
              · exact .missing hfind hcome
              · exact .broken ..
          | some schema =>
              have hsome : c'.known.find? (Reference.absolute base
                  (Reference.split reference).1) ≠ none := by
                rw [hcome]
                exact Option.some_ne_none _
              rw [if_pos (hlarger.remote _ hfind hsome)]
              exact .come hfind hsome _

end DocumentContext

/-! ## Examinations -/

namespace Judge

variable (J : Judge) (settings : Settings) (schema : Value)

/-- The context of a schema with a verdict. -/
def rootContext (known : Documents) (verdict : Verdict) : DocumentContext J where
  settings := settings
  known := known
  schema := schema
  base := baseUrl? schema
  verdict := Thunk.pure (.ok verdict)

/-- What the check of references comes to. -/
def conclude (c : DocumentContext J) :
    Except CompileError (List String) → Attempt (DocumentContext J)
  | .error e => .failed e
  | .ok [] => .done c
  | .ok uris => .needs uris

/-- What a call of the compiler leads to. -/
def examine (known : Documents) : Attempt (DocumentContext J) :=
  match J.compile settings.terms known schema with
  | .error e =>
    if e.missing.isEmpty then .failed (.invalidSchema e.reason)
    else .needs e.missing
  | .ok verdict =>
    J.conclude (J.rootContext settings schema known verdict)
      (scan (states schema (J.rootContext settings schema known verdict)) [])

theorem attempt_eq (p : Progress Settings) :
    attempt J.compiler schema p =
      (J.examine p.state schema (Documents.known schema p.cache), p) := by
  unfold attempt examine compiler context
  cases hcompile : J.compile p.state.terms (Documents.known schema p.cache) schema with
  | error e =>
      simp only [hcompile]
      cases e.missing.isEmpty <;> rfl
  | ok verdict =>
      simp only [hcompile, ← missingDocuments_eq]
      show (match missingDocuments schema (J.rootContext p.state schema
          (Documents.known schema p.cache) verdict) with
        | .error e => _
        | .ok [] => _
        | .ok uris => _) = _
      cases missingDocuments schema (J.rootContext p.state schema
          (Documents.known schema p.cache) verdict) with
      | error e => rfl
      | ok uris => cases uris <;> rfl

section

variable {J} {c c' : DocumentContext J}
  {outcome : Except CompileError (List String)}

theorem scan_of_conclude_done (h : J.conclude c outcome = .done c') :
    outcome = .ok [] := by
  match outcome with
  | .error e => cases h
  | .ok [] => rfl
  | .ok (_ :: _) => cases h

theorem scan_of_conclude_failed {e : CompileError}
    (h : J.conclude c outcome = .failed e) : outcome = .error e := by
  match outcome with
  | .error e => cases h; rfl
  | .ok [] => cases h
  | .ok (_ :: _) => cases h

theorem scan_of_conclude_needs {names : List String}
    (h : J.conclude c outcome = .needs names) :
    outcome = .ok names ∧ names ≠ [] := by
  match outcome with
  | .error e => cases h
  | .ok [] => cases h
  | .ok (name :: rest) =>
      cases h
      exact ⟨rfl, List.cons_ne_nil _ _⟩

theorem conclude_needs {names : List String} (h : names ≠ []) :
    J.conclude c (.ok names) = .needs names := by
  cases names with
  | nil => exact absurd rfl h
  | cons name rest => rfl

end

theorem examine_ok {known : Documents} {verdict : Verdict}
    (h : J.compile settings.terms known schema = .ok verdict) :
    J.examine settings schema known =
      J.conclude (J.rootContext settings schema known verdict)
        (scan (states schema (J.rootContext settings schema known verdict))
          []) := by
  rw [examine, h]

theorem examine_error {known : Documents} {e : JudgeError}
    (h : J.compile settings.terms known schema = .error e) :
    J.examine settings schema known =
      if e.missing.isEmpty then .failed (.invalidSchema e.reason)
      else .needs e.missing := by
  rw [examine, h]

variable {J settings schema} {known larger : Documents}

/-- A table that holds what the schema itself holds. -/
abbrev Holds (schema : Value) (known : Documents) : Prop :=
  Library.Source.Within (Documents.own schema).find? known.find?

/-- A larger table changes nothing but the state of references whose documents
have come. -/
theorem states_later (hsighted : Sighted schema) (hown : Holds schema known)
    (hlarger : Enlarges known larger) (verdict verdict' : Verdict) :
    Later known larger
      (states schema (J.rootContext settings schema known verdict))
      (states schema (J.rootContext settings schema larger verdict')) := by
  unfold states
  rw [List.flatMap_def, List.flatMap_def]
  refine List.rel_flatten (List.forall₂_map_left_iff.2
    (List.forall₂_map_right_iff.2 (List.forall₂_same.2 fun r hr => ?_)))
  obtain ⟨d, hd, hnames⟩ := hsighted r hr
  have hsame : DocumentContext.Again (Validator.lenientContext schema)
      (J.rootContext settings schema known verdict) :=
    ⟨rfl, rfl, by rw [lenientContext_known]; exact hown⟩
  have hsame' : DocumentContext.Again (Validator.lenientContext schema)
      (J.rootContext settings schema larger verdict') :=
    ⟨rfl, rfl, by
      rw [lenientContext_known]
      exact fun name v h => hlarger.kept name v (hown name v h)⟩
  obtain ⟨hagain, hknown⟩ := hsame.enterScope hd (baseUrl? schema)
  obtain ⟨hagain', hknown'⟩ := hsame'.enterScope hd (baseUrl? schema)
  rw [List.forall₂_map_left_iff, List.forall₂_map_right_iff,
    List.forall₂_same]
  intro reference href
  rw [DocumentContext.enterScope_base, DocumentContext.enterScope_base]
  have hname := hnames reference href
  rw [← hagain.base] at hname
  have hgrows := DocumentContext.referenceState_grows
    (hagain'.schema.trans hagain.schema.symm)
    (hagain'.base.trans hagain.base.symm)
    (by rw [hknown, hknown']; exact hlarger) hname
  rwa [hknown, hknown'] at hgrows

section

variable (hJ : J.Reads) (hsighted : Sighted schema)
  (hown : Holds schema known) (hlarger : Enlarges known larger)

include hJ hsighted hown hlarger

/-- What is accepted in a table is accepted in a larger one. -/
theorem examine_done {c : DocumentContext J}
    (h : J.examine settings schema known = .done c) :
    ∃ c', J.examine settings schema larger = .done c' := by
  cases hcompile : J.compile settings.terms known schema with
  | error e =>
      rw [examine_error _ _ _ hcompile] at h
      split at h <;> cases h
  | ok verdict =>
      rw [examine_ok _ _ _ hcompile] at h
      rw [examine_ok _ _ _ (hJ.accepts hlarger.kept hcompile)]
      have hscan := scan_of_conclude_done h
      rw [scan_same (states_later hsighted hown hlarger _ _) hscan nofun]
      exact ⟨_, rfl⟩

/-- What fails in a table fails in a larger one. -/
theorem examine_failed {e : CompileError}
    (h : J.examine settings schema known = .failed e) :
    ∃ e', J.examine settings schema larger = .failed e' := by
  cases hcompile : J.compile settings.terms known schema with
  | error cause =>
      rw [examine_error _ _ _ hcompile] at h
      split at h
      · next hempty =>
          have hrefused := hJ.refuses hlarger.kept hcompile
            (by simp [List.isEmpty_iff.1 hempty])
          rw [examine_error _ _ _ hrefused, if_pos hempty]
          exact ⟨_, rfl⟩
      · cases h
  | ok verdict =>
      rw [examine_ok _ _ _ hcompile] at h
      rw [examine_ok _ _ _ (hJ.accepts hlarger.kept hcompile)]
      have hscan : ∃ e', scan (states schema
          (J.rootContext settings schema larger verdict)) [] = .error e' :=
        scan_error (states_later hsighted hown hlarger _ verdict)
          (scan_of_conclude_failed h)
      obtain ⟨e', he'⟩ := hscan
      rw [he']
      exact ⟨_, rfl⟩

/-- If none of the missing documents has come, the same ones are missing. -/
theorem examine_needs {names : List String}
    (h : J.examine settings schema known = .needs names)
    (hnone : ∀ name ∈ names, larger.find? name = none) :
    J.examine settings schema larger = .needs names := by
  cases hcompile : J.compile settings.terms known schema with
  | error cause =>
      rw [examine_error _ _ _ hcompile] at h
      split at h
      · cases h
      · next hmissing =>
          cases h
          rw [examine_error _ _ _
            (hJ.refuses hlarger.kept hcompile hnone), if_neg hmissing]
  | ok verdict =>
      rw [examine_ok _ _ _ hcompile] at h
      rw [examine_ok _ _ _ (hJ.accepts hlarger.kept hcompile)]
      obtain ⟨hscan, hne⟩ := scan_of_conclude_needs h
      rw [scan_same (states_later hsighted hown hlarger _ _) hscan hnone]
      exact conclude_needs hne

/-- As long as a missing document has not come, there is no success, and it is
among what is missing. -/
theorem examine_needs_mem {names : List String}
    (h : J.examine settings schema known = .needs names) {name : String}
    (hname : name ∈ names) (hnone : larger.find? name = none) :
    (∃ e, J.examine settings schema larger = .failed e) ∨
      ∃ names', J.examine settings schema larger = .needs names' ∧
        name ∈ names' := by
  cases hcompile : J.compile settings.terms known schema with
  | error cause =>
      -- The compiler asks for one document at a time.
      have hall : ∀ n ∈ names, larger.find? n = none := by
        rw [examine_error _ _ _ hcompile] at h
        split at h
        · cases h
        · cases h
          intro n hn
          have hone := (hJ.asks hcompile).1
          obtain ⟨only, honly⟩ := List.length_eq_one_iff.1
            (Nat.le_antisymm hone (List.length_pos_of_mem hname))
          rw [honly, List.mem_singleton] at hn hname
          rw [hn, ← hname, hnone]
      exact .inr ⟨names, examine_needs hJ hsighted hown hlarger h hall, hname⟩
  | ok verdict =>
      rw [examine_ok _ _ _ hcompile] at h
      obtain ⟨hscan, -⟩ := scan_of_conclude_needs h
      rw [examine_ok _ _ _ (hJ.accepts hlarger.kept hcompile)]
      cases hscan' : scan (states schema
          (J.rootContext settings schema larger verdict)) [] with
      | error e => exact .inl ⟨e, rfl⟩
      | ok names' =>
          have hmem : name ∈ names' :=
            mem_of_scan (states_later hsighted hown hlarger _ _) hscan hscan'
              nofun hname hnone
          exact .inr ⟨names', conclude_needs (List.ne_nil_of_mem hmem), hmem⟩

omit hlarger in
/-- What is missing is not in the table, and is named once. -/
theorem absent_of_needs {names : List String}
    (h : J.examine settings schema known = .needs names) :
    names.Nodup ∧ ∀ name ∈ names, known.find? name = none := by
  cases hcompile : J.compile settings.terms known schema with
  | error cause =>
      rw [examine_error _ _ _ hcompile] at h
      split at h
      · cases h
      · cases h
        obtain ⟨hone, habsent⟩ := hJ.asks hcompile
        refine ⟨?_, habsent⟩
        match hnames : cause.missing with
        | [] => exact List.nodup_nil
        | [name] => exact List.nodup_singleton name
        | _ :: _ :: _ => simp [hnames] at hone
  | ok verdict =>
      rw [examine_ok _ _ _ hcompile] at h
      obtain ⟨hscan, -⟩ := scan_of_conclude_needs h
      refine ⟨nodup_of_scan hscan List.nodup_nil, fun name hname => ?_⟩
      rcases absent_of_scan (states_later hsighted hown
        (Enlarges.refl known) verdict verdict) hscan hname with hmem | hnone
      · cases hmem
      · exact hnone

end

end Judge

end SchemaPipeline
