import SchemaPipeline.Engine.Judge
import SchemaPipeline.Proofs.Walk.Places
import SchemaPipeline.Registry.Compile
import SchemaPipeline.Transform.Edits

/-!
# What the check of references covers

A schema is handed out when each of its references has a target, seen from the
resource that holds it. A walk chooses the context of a reference in its own
way: it enters a resource when it comes to the schema that starts it, and it
stays in the document that a reference led to. The two ways agree as long as a
walk sees a reference from the document that it was checked in. `walk_ok_iff`
says that nothing else can go wrong: a walk fails only at a reference that it
sees from elsewhere and that has no target there, or at a chain of references
that is too long.

They do not always agree. A pointer that runs through an embedded resource leads
into this resource, but the walk goes on in the document around it.
-/

namespace SchemaPipeline

/-! ## What was checked -/

namespace Registry

section

variable {κ : Type} [SchemaContext κ]

theorem resolved_of_state {base : Option Url} {context : κ}
    {reference : String} (h : referenceState base context reference = .resolved) :
    ∃ target, Reference.resolveIn reference context = .ok target := by
  cases hresolve : Reference.resolveIn reference context with
  | ok target => exact ⟨target, rfl⟩
  | error e =>
      simp only [referenceState, hresolve] at h
      cases e with
      | unknownDocument r =>
          simp only at h
          split at h <;> cases h
      | unknownFragment r fragment => cases h

theorem missingOf_nil {base : Option Url} {context : κ}
    {references missing : List String}
    (h : missingOf base context references missing = .ok []) :
    missing = [] ∧ ∀ reference ∈ references,
      ∃ target, Reference.resolveIn reference context = .ok target := by
  induction references generalizing missing with
  | nil =>
      rw [missingOf] at h
      exact ⟨Except.ok.inj h, fun _ hmem => absurd hmem List.not_mem_nil⟩
  | cons reference rest ih =>
      rw [missingOf] at h
      cases hstate : referenceState base context reference with
      | resolved =>
          rw [hstate] at h
          obtain ⟨hnil, hrest⟩ := ih h
          refine ⟨hnil, fun r hmem => ?_⟩
          rcases List.mem_cons.1 hmem with rfl | hmem
          · exact resolved_of_state hstate
          · exact hrest r hmem
      | missing uri =>
          rw [hstate] at h
          exact absurd (ih h).1 (addNew_ne_nil missing uri)
      | broken reason =>
          rw [hstate] at h
          cases h

theorem missingFrom_nil {base : Option Url} {context : κ}
    {resources : List Schema.ResourceReferences} {missing : List String}
    (h : missingFrom base context resources missing = .ok []) :
    missing = [] ∧ ∀ resource ∈ resources,
      ∀ reference ∈ resource.references, ∃ target,
        Reference.resolveIn reference
          (enterScope base context resource.scope).2 = .ok target := by
  induction resources generalizing missing with
  | nil =>
      rw [missingFrom] at h
      exact ⟨Except.ok.inj h, fun _ hmem => absurd hmem List.not_mem_nil⟩
  | cons resource rest ih =>
      simp only [missingFrom] at h
      split at h
      · next missing' hmissing =>
          obtain ⟨rfl, hrest⟩ := ih h
          obtain ⟨hnil, hhere⟩ := missingOf_nil hmissing
          refine ⟨hnil, fun r hmem => ?_⟩
          rcases List.mem_cons.1 hmem with rfl | hmem
          · exact hhere
          · exact hrest r hmem
      · cases h

variable {σ : Type}

theorem attempt_done {compiler : Compiler σ κ} {schema : Value}
    {p p' : Progress σ} {context : κ}
    (h : attempt compiler schema p = (.done context, p')) :
    (compiler.compile schema p.cache p.state).1 = .ok context ∧
      missingDocuments schema context = .ok [] := by
  simp only [attempt] at h
  split at h
  · cases h
  · cases h
  · next built hbuilt =>
      split at h
      · cases h
      · next hnone =>
          cases h
          exact ⟨hbuilt, hnone⟩
      · cases h

/-- The rounds end with a schema that was compiled in the last of them. -/
theorem attempt_of_compileWithin {compiler : Compiler σ κ} {net : Network}
    {arrival : List Cache.Request → List Cache.Request} {schema : Value}
    {calls : Nat} {p : Progress σ} {context : κ}
    (h : (compileWithin compiler net arrival schema calls p).1 =
      some (.ok context)) :
    ∃ q q', attempt compiler schema q = (.done context, q') := by
  induction calls generalizing p with
  | zero => cases h
  | succ calls ih =>
      rw [compileWithin] at h
      split at h
      · next hattempt =>
          cases h
          exact ⟨_, _, hattempt⟩
      · cases h
      · split at h
        · exact ih h
        · cases h

theorem attempt_of_compile {r : Registry σ κ} {net : Network} {calls : Nat}
    {schema : Value} {v : Validator κ}
    (h : (r.compile net calls schema).result = some (.ok v)) :
    v.schema = schema ∧
      ∃ p p', attempt r.compiler schema p = (.done v.context, p') := by
  simp only [compile] at h
  obtain ⟨outcome, hcompile, houtcome⟩ := Option.map_eq_some_iff.1 h
  cases outcome with
  | error e => cases houtcome
  | ok context =>
      cases houtcome
      exact ⟨rfl, attempt_of_compileWithin hcompile⟩

/-- What a compilation hands out is the schema, and each of its references has
a target in the resource that holds it. -/
theorem compile_ok {r : Registry σ κ} {net : Network} {calls : Nat}
    {schema : Value} {v : Validator κ}
    (h : (r.compile net calls schema).result = some (.ok v)) :
    v.schema = schema ∧ ∀ resource ∈ Schema.collectReferences v.schema,
      ∀ reference ∈ resource.references, ∃ target,
        Reference.resolveIn reference
          (enterScope (Schema.baseUrl? v.schema) v.context resource.scope).2 =
            .ok target := by
  obtain ⟨rfl, p, p', hattempt⟩ := attempt_of_compile h
  exact ⟨rfl, (missingFrom_nil (attempt_done hattempt).2).2⟩

end

end Registry

/-! ## Contexts of one document -/

namespace DocumentContext

variable {J : Judge}

/-- Contexts of one document in one table, seen from bases that give the same
names to documents. -/
structure Alike (c c' : DocumentContext J) : Prop where
  schema : c'.schema = c.schema
  known : c'.known = c.known
  base : ∀ reference,
    Reference.absolute c'.base reference = Reference.absolute c.base reference

theorem Alike.fragment? {c c' : DocumentContext J} (h : Alike c c')
    (fragment : String) : c'.fragment? fragment = c.fragment? fragment := by
  rw [DocumentContext.fragment?, DocumentContext.fragment?, h.schema]

/-- The document part of a reference selects contexts of one document. -/
theorem Alike.select {c c' d : DocumentContext J} (h : Alike c c')
    {document : String} (hd : Reference.select c document = some d) :
    ∃ d', Reference.select c' document = some d' ∧ Alike d d' := by
  unfold Reference.select at hd ⊢
  split at hd
  · next hempty =>
      cases hd
      rw [if_pos hempty]
      exact ⟨c', rfl, h⟩
  · next hnamed =>
      rw [if_neg hnamed]
      simp only [SchemaContext.document, document?, h.base, h.known] at hd ⊢
      obtain ⟨schema, hfind, rfl⟩ := Option.map_eq_some_iff.1 hd
      rw [hfind]
      exact ⟨_, rfl, rfl, rfl, fun _ => rfl⟩

theorem Alike.resolves {c c' : DocumentContext J} (h : Alike c c')
    {reference : String}
    (hr : ∃ target, Reference.resolveIn reference c = .ok target) :
    ∃ target, Reference.resolveIn reference c' = .ok target := by
  obtain ⟨target, htarget⟩ := hr
  simp only [Reference.resolveIn] at htarget ⊢
  split at htarget
  · cases htarget
  · next d hd =>
      obtain ⟨d', hd', halike⟩ := h.select hd
      rw [hd']
      simp only [SchemaContext.fragment, halike.fragment?] at htarget ⊢
      split at htarget
      · cases htarget
      · exact ⟨_, rfl⟩

end DocumentContext

/-! ## Walks beside a compiled schema -/

namespace Validator

open Walk

variable {J : Judge}

/-- The compilation has looked at a reference, from the same document. -/
def Checked (v : Validator (DocumentContext J)) (reference : String)
    (c : DocumentContext J) : Prop :=
  ∃ resource ∈ Schema.collectReferences v.schema,
    reference ∈ resource.references ∧
      DocumentContext.Alike
        (Registry.enterScope (Schema.baseUrl? v.schema) v.context
          resource.scope).2 c

/-- Where a walk beside a compiled schema starts. -/
def start (v : Validator (DocumentContext J)) : Place (DocumentContext J) :=
  Place.start v.schema v.context

variable {σ : Type} {r : Registry σ (DocumentContext J)} {net : Network}
  {calls : Nat} {schema : Value} {v : Validator (DocumentContext J)}

theorem resolves_of_checked
    (h : (r.compile net calls schema).result = some (.ok v))
    {reference : String} {c : DocumentContext J}
    (hchecked : v.Checked reference c) :
    ∃ target, Reference.resolveIn reference c = .ok target := by
  obtain ⟨resource, hmem, href, halike⟩ := hchecked
  exact halike.resolves
    ((Registry.compile_ok h).2 resource hmem reference href)

/-! ## Schemas that are compiled at once -/

/-- A judge that builds every schema and accepts every value. -/
def lenient : Judge := ⟨fun _ _ _ => .ok fun _ => pure .empty⟩

/-- The context that it gives to a schema without further documents. -/
def lenientContext (schema : Value) : DocumentContext lenient where
  settings := Settings.ofConfig .default
  known := Documents.known schema .empty
  schema := schema
  base := Schema.baseUrl? schema
  verdict := Thunk.pure (.ok fun _ => pure .empty)

def lenientRegistry : Registry Settings (DocumentContext lenient) :=
  Registry.new .withoutTransforms lenient.compiler (Settings.ofConfig .default)

/-- Whether every reference of a schema has a target in the schema itself. -/
def isClosed (schema : Value) : Bool :=
  match Registry.missingDocuments schema (lenientContext schema) with
  | .ok missing => missing.isEmpty
  | .error _ => false

theorem compile_of_isClosed {schema : Value} (h : isClosed schema = true) :
    (lenientRegistry.compile Network.unreachable 1 schema).result =
      some (.ok ⟨schema, lenientContext schema⟩) := by
  have hnone : Registry.missingDocuments schema (lenientContext schema) =
      .ok [] := by
    unfold isClosed at h
    split at h
    · next missing hmissing =>
        rw [hmissing, List.isEmpty_iff.1 h]
    · cases h
  have hcontext : lenient.context (Settings.ofConfig .default) schema .empty =
      .ok (lenientContext schema) := rfl
  have hattempt : Registry.attempt lenient.compiler schema
        ⟨Settings.ofConfig .default, .empty, [], []⟩ =
      (.done (lenientContext schema),
        ⟨Settings.ofConfig .default, .empty, [], []⟩) := by
    simp only [Registry.attempt, Judge.compiler, hcontext, hnone]
  simp only [Registry.compile, Registry.compileWithin, lenientRegistry,
    Registry.new, hattempt]
  rfl

theorem idle_identity : (Transform.Edit.visitor "id" .identity).Idle := by
  intro v pointer schema
  cases v <;> rfl

/-- A number has no members, so only a chain of references is met. -/
theorem short_of_stuck {p : Place (DocumentContext J)} (hhops : 1 < p.hops)
    (hstuck : (p.next?.bind Place.next?).isNone = true) {n : Number}
    {q : Place (DocumentContext J)} (hq : Comes p (.number n) q) :
    ¬ q.TooLong := by
  rintro ⟨hzero, -⟩
  cases hq with
  | here => omega
  | link hnext hq =>
      have hfirst := hops_of_next hnext
      cases hq with
      | here => omega
      | link hnext' =>
          rw [hnext, Option.bind_some, hnext'] at hstuck
          cases hstuck

/-! ## Where walks and the check agree -/

/-- A walk that changes nothing returns the value, unless it meets a chain of
references that is too long, exactly when every reference that it sees from
elsewhere than the compilation did has a target there. -/
theorem walk_ok_iff_unchecked
    (h : (r.compile net calls schema).result = some (.ok v))
    {visitor : Visitor} (hidle : visitor.Idle) {data : Value}
    (hshort : ∀ p, Comes v.start data p → ¬ p.TooLong)
    {depth : Nat} (hdepth : data.size ≤ depth) :
    (Walk.run visitor depth data (some v.schema) (some v.context)).2 =
        .ok data ↔
      ∀ p reference, Comes v.start data p → p.reference? = some reference →
        ¬ v.Checked reference p.inner →
          ∃ target, Reference.resolveIn reference p.inner = .ok target := by
  rw [Walk.run, walk_ok_iff hidle hdepth]
  constructor
  · intro hclear p reference hp href _
    exact (settled_iff (hshort p hp)).1 (hclear p hp) reference href
  · intro hunchecked p hp
    refine (settled_iff (hshort p hp)).2 fun reference href => ?_
    by_cases hchecked : v.Checked reference p.inner
    · exact resolves_of_checked h hchecked
    · exact hunchecked p reference hp href hchecked

/-- A reference to a definition, which a walk sees where it was checked. -/
def toDefinition : Value :=
  .object [("$ref", .string "#/$defs/c"),
    ("$defs", .object [("c", .object [("type", .string "integer")])])]

theorem walk_ok_iff_unchecked_toDefinition :
    (Walk.run (Transform.Edit.visitor "id" .identity) 1 (.ofInt 1)
        (some toDefinition) (some (lenientContext toDefinition))).2 =
          .ok (.ofInt 1) ↔
      ∀ p reference,
        Comes (start ⟨toDefinition, lenientContext toDefinition⟩) (.ofInt 1) p →
        p.reference? = some reference →
        ¬ Checked ⟨toDefinition, lenientContext toDefinition⟩ reference
          p.inner →
        ∃ target, Reference.resolveIn reference p.inner = .ok target :=
  walk_ok_iff_unchecked (compile_of_isClosed (by decide +kernel))
    idle_identity
    (fun _ => short_of_stuck (by decide) (by decide +kernel)) (by decide)

/-- A reference through an embedded resource. -/
def throughEmbedded : Value :=
  .object [("$ref", .string "#/$defs/a/$defs/b"),
    ("$defs", .object [("a", .object [("$id", .string "a"),
      ("$defs", .object [("b", .object [("$ref", .string "#/$defs/c")]),
        ("c", .object [("type", .string "integer")])])])])]

/-- The reference inside the embedded resource is accepted, and has no target
in a walk. -/
theorem exists_unresolved :
    ¬ ∀ (J : Judge) (r : Registry Settings (DocumentContext J))
        (net : Network) (calls : Nat) (schema : Value)
        (v : Validator (DocumentContext J)),
      r.compiler = J.compiler →
      (r.compile net calls schema).result = some (.ok v) →
      ∀ (visitor : Visitor) (data : Value) (depth : Nat),
        visitor.Idle → data.size ≤ depth →
        (∀ p, Comes v.start data p → ¬ p.TooLong) →
        (Walk.run visitor depth data (some v.schema) (some v.context)).2 =
          .ok data := by
  intro h
  have hclosed : isClosed throughEmbedded = true := by decide +kernel
  have hfails : (match (Walk.run (Transform.Edit.visitor "id" .identity) 1
      (.ofInt 1) (some throughEmbedded)
      (some (lenientContext throughEmbedded))).2 with
      | .ok _ => true
      | .error _ => false) = false := by decide +kernel
  have hwalk := h lenient lenientRegistry Network.unreachable 1
    throughEmbedded ⟨throughEmbedded, lenientContext throughEmbedded⟩ rfl
    (compile_of_isClosed hclosed) (Transform.Edit.visitor "id" .identity)
    (.ofInt 1) 1 idle_identity (by decide)
    (fun _ => short_of_stuck (by decide) (by decide +kernel))
  rw [hwalk] at hfails
  cases hfails

end Validator

end SchemaPipeline
