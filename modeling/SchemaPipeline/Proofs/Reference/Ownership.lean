import SchemaPipeline.Proofs.Schema.Anchors

/-!
# The context of a target

What is written inside the target of a reference is to be resolved in the
resource around it, and the context that is handed back with the target should
be the one of this resource. It is the context of the document, for only the
document part of the reference has a say in it. So it is the right one exactly
for the targets that lie in no resource inside the document
(`resolve_owns_iff`): what the fragment passes on its way is not looked at.
-/

namespace SchemaPipeline

namespace Schema

/-- The position that a fragment of a document names. -/
def positionOf? (fragment : String) (document : Value) : Option Position :=
  if fragment.isEmpty then some (.whole document)
  else if fragment.toList.head? = some '/' then
    (Pointer.ofFragment fragment).bind fun p => locate document p.tokens
  else anchorPosition? fragment document

theorem mem_resources_of_positionOf? {fragment : String} {document : Value}
    {p : Position} (h : positionOf? fragment document = some p) :
    (p.scope, p.owner) ∈ resources document := by
  unfold positionOf? at h
  split at h
  · cases h
    exact List.mem_cons_self
  · split at h
    · obtain ⟨q, -, hq⟩ := Option.bind_eq_some_iff.1 h
      exact mem_resources_of_locate hq
    · exact mem_resources_of_positions (List.mem_of_find?_eq_some h)

end Schema

namespace DocumentContext

open Schema

variable {J : Judge}

/-- A fragment names what stands at its position. -/
theorem fragment?_eq (c : DocumentContext J) (fragment : String) :
    c.fragment? fragment =
      (positionOf? fragment c.schema).map Position.schema := by
  unfold fragment? positionOf?
  split
  · rfl
  · split
    · rw [Option.map_bind]
      congr 1
      funext p
      exact (locate_schema c.schema p.tokens).symm
    · exact (map_schema_anchorPosition? fragment c.schema).symm

/-! ## Targets -/

theorem Alike.lockstep : Lockstep (J := J) Alike where
  schema h := h.schema.symm
  document? {c c'} h reference := by
    simp only [DocumentContext.document?, h.base, h.known]
    cases c.known.find? (Reference.absolute c.base reference) with
    | none => exact .none
    | some schema => exact .some ⟨rfl, rfl, fun _ => rfl⟩

/-- The empty reference leads to the document itself. -/
theorem targets_self (c : DocumentContext J) :
    c.targets [] "" = some (.ok c.schema) := rfl

/-- What is resolved is a fragment of the document that was selected. -/
theorem select_of_resolve {reference : String} {c : DocumentContext J}
    {t : Reference.Target (DocumentContext J)}
    (h : Reference.resolve reference (some c) = .ok (some t)) :
    Reference.select c (Reference.split reference).1 = some t.context ∧
      t.context.fragment? (Reference.split reference).2 = some t.schema := by
  simp only [Reference.resolve, Reference.resolveIn] at h
  cases hselect : Reference.select c (Reference.split reference).1 with
  | none =>
      rw [hselect] at h
      cases h
  | some d =>
      simp only [hselect, SchemaContext.fragment] at h
      cases hfragment : d.fragment? (Reference.split reference).2 with
      | none =>
          rw [hfragment] at h
          cases h
      | some schema =>
          rw [hfragment] at h
          cases h
          exact ⟨rfl, hfragment⟩

/-- A reference without a document part is resolved in the document at hand. -/
theorem resolve_within {reference fragment : String} {c : DocumentContext J}
    {schema : Value} (hsplit : Reference.split reference = ("", fragment))
    (hfragment : c.fragment? fragment = some schema) :
    Reference.resolve reference (some c) = .ok (some ⟨c, schema⟩) := by
  have hselect : Reference.select c "" = some c := rfl
  simp only [Reference.resolve, Reference.resolveIn, hsplit, hselect,
    SchemaContext.fragment, hfragment]
  rfl

/-! ## The resource around a target -/

/-- The context of the resource around a position, in a document that has the
base `root`. -/
structure Owner (root : Option Url) (c : DocumentContext J) (p : Position)
    (o : DocumentContext J) : Prop where
  known : o.known = c.known
  schema : o.schema = p.owner
  base : o.base = addressFrom root p.scope

/-- A context stands for the resource around a position: it has its base, and
the references written there have the same targets as from the resource. -/
structure Owns (root : Option Url) (c : DocumentContext J) (p : Position) :
    Prop where
  base : c.base = addressFrom root p.scope
  targets : ∀ o, Owner root c p o → o.targets = c.targets

/-- The context of a document stands for the positions outside the resources
inside it, and for no other. -/
theorem owns_iff {c : DocumentContext J} {p : Position}
    (hp : (p.scope, p.owner) ∈ resources c.schema) (root : Option Url) :
    Owns root c p ↔ p.scope = [] ∧ root = c.base := by
  constructor
  · intro ⟨hbase, htargets⟩
    have hsame : p.owner = c.schema := by
      have htarget := htargets
        ⟨c.settings, c.known, p.owner, addressFrom root p.scope, c.verdict⟩
        ⟨rfl, rfl, rfl⟩
      have hself := congrFun (congrFun htarget []) ""
      rw [targets_self, targets_self] at hself
      exact Except.ok.inj (Option.some.inj hself)
    rcases List.mem_cons.1 hp with heq | hinner
    · have hscope : p.scope = [] := congrArg Prod.fst heq
      rw [hscope] at hbase
      exact ⟨hscope, hbase.symm⟩
    · -- a resource inside the document is smaller than the document
      have hlt : p.owner.size < c.schema.size := size_lt_of_mem_inner hinner
      rw [hsame] at hlt
      omega
  · intro ⟨hscope, hroot⟩
    have howner : p.owner = c.schema := by
      rcases List.mem_cons.1 hp with heq | hinner
      · exact congrArg Prod.snd heq
      · exact absurd hscope (scope_ne_nil hinner)
    have hbase : c.base = addressFrom root p.scope := by
      rw [hscope, hroot]
      rfl
    refine ⟨hbase, fun o ho => ?_⟩
    have halike : Alike c o := by
      refine ⟨ho.schema.trans howner, ho.known, fun reference => ?_⟩
      rw [ho.base, hbase]
    exact (Alike.lockstep.targets halike).symm

/-- The context that is handed back with the target of a reference stands for
the resource around the target exactly if no resource inside the document is
around it, whatever the base of the document is taken to be. -/
theorem resolve_owns_iff {reference : String} {c : DocumentContext J}
    {t : Reference.Target (DocumentContext J)}
    (h : Reference.resolve reference (some c) = .ok (some t)) :
    ∃ p, positionOf? (Reference.split reference).2 t.context.schema = some p ∧
      p.schema = t.schema ∧
      ∀ root, Owns root t.context p ↔ p.scope = [] ∧ root = t.context.base := by
  obtain ⟨-, hfragment⟩ := select_of_resolve h
  rw [fragment?_eq] at hfragment
  obtain ⟨p, hp, hschema⟩ := Option.map_eq_some_iff.1 hfragment
  exact ⟨p, hp, hschema, owns_iff (mem_resources_of_positionOf? hp)⟩

theorem resolve_owns_toDefinition :
    Reference.resolve "#/$defs/c"
        (some (Validator.lenientContext Validator.toDefinition)) =
      .ok (some ⟨Validator.lenientContext Validator.toDefinition,
        .object [("type", .string "integer")]⟩) ∧
    ∃ p, positionOf? "/$defs/c" Validator.toDefinition = some p ∧
      p.schema = .object [("type", .string "integer")] ∧
      ∀ root, Owns root (Validator.lenientContext Validator.toDefinition) p ↔
        p.scope = [] ∧ root = Schema.baseUrl? Validator.toDefinition := by
  have hresolve := resolve_within
    (c := Validator.lenientContext Validator.toDefinition)
    (show Reference.split "#/$defs/c" = ("", "/$defs/c") by decide +kernel)
    (show _ = some (.object [("type", .string "integer")]) by decide +kernel)
  exact ⟨hresolve, resolve_owns_iff hresolve⟩

/-- A reference through a resource inside the document comes back with the base
of the document. -/
theorem exists_resolve_disowned :
    ¬ ∀ (J : Judge) (settings : Settings) (schema : Value) (given : Documents)
        (c : DocumentContext J),
      J.context settings schema given = .ok c →
      ∀ (reference : String) (t : Reference.Target (DocumentContext J)),
        Reference.resolve reference (some c) = .ok (some t) →
        ∀ p, positionOf? (Reference.split reference).2 t.context.schema =
            some p →
          t.context.base = addressFrom t.context.base p.scope := by
  intro h
  have hbase := h Validator.lenient (Settings.ofConfig .default)
    Validator.throughEmbedded .empty
    (Validator.lenientContext Validator.throughEmbedded) rfl
    "#/$defs/a/$defs/b" _ (resolve_within
      (show Reference.split _ = ("", "/$defs/a/$defs/b") by decide +kernel)
      (show _ = some (.object [("$ref", .string "#/$defs/c")])
        by decide +kernel))
  have hscope : (positionOf? "/$defs/a/$defs/b"
      Validator.throughEmbedded).map Position.scope = some ["a"] := by
    decide +kernel
  obtain ⟨p, hp, hp'⟩ := Option.map_eq_some_iff.1 hscope
  have hsame := hbase p hp
  rw [hp'] at hsame
  exact absurd hsame (by decide +kernel)

end DocumentContext

end SchemaPipeline
