import SchemaPipeline.Proofs.Validation.Keywords
import SchemaPipeline.Validation.Standard

/-!
# What a larger table changes

The standard judge looks documents up one after the other and stops at the first
that is not there. So a table with more documents leads it the same way, up to
the document that it has asked for in vain: a schema that has been accepted or
refused stays so, and one that lacks a document lacks it as long as this very
document is not there.

None of this depends on the metaschemas. The judge is put here over any library
to start from, any check of schemas and any limit to the depth of plans.
-/

namespace SchemaPipeline

variable {α β : Type}

/-! ## Looking documents up -/

/-- A source finds whatever another one finds. -/
def Library.Source.Within (source larger : Library.Source) : Prop :=
  ∀ key v, source key = some v → larger key = some v

/-- A computation that looks documents up one after the other and asks for the
first that is not there. -/
structure LooksUp (x : Library.Source → Except SchemaError α) : Prop where
  finds : ∀ {f g a}, Library.Source.Within f g → x f = .ok a → x g = .ok a
  fails : ∀ {f g e}, Library.Source.Within f g → x f = .error e →
    (∀ key ∈ e.missing?, g key = none) → x g = .error e
  asks : ∀ {f e}, x f = .error e → ∀ key ∈ e.missing?, f key = none

namespace LooksUp

theorem of_quiet {x : Except SchemaError α} (h : Quiet x) :
    LooksUp fun _ => x where
  finds _ hx := hx
  fails _ hx _ := hx
  asks hx key hkey := by
    rw [h.missing _ hx] at hkey
    cases hkey

/-- A document is looked up, and asked for if it is not there. -/
theorem document {key : String} {e : SchemaError} (he : e.missing? = some key)
    {k : Value → Library.Source → Except SchemaError α}
    (hk : ∀ v, LooksUp (k v)) :
    LooksUp fun f => match f key with
      | none => .error e
      | some v => k v f where
  finds {f g a} hwithin h := by
    cases hf : f key with
    | none =>
        rw [hf] at h
        cases h
    | some v =>
        rw [hf] at h
        simp only [hwithin key v hf]
        exact (hk v).finds hwithin h
  fails {f g e'} hwithin h hnone := by
    cases hf : f key with
    | none =>
        rw [hf] at h
        cases h
        simp only [hnone key he]
    | some v =>
        rw [hf] at h
        simp only [hwithin key v hf]
        exact (hk v).fails hwithin h hnone
  asks {f e'} h := by
    cases hf : f key with
    | none =>
        rw [hf] at h
        cases h
        intro key' hkey
        cases he.symm.trans hkey
        exact hf
    | some v =>
        rw [hf] at h
        exact (hk v).asks h

end LooksUp

/-- A computation that asks for documents one after the other and fails at the
first that is not there. -/
inductive Asking : (Library.Source → Except SchemaError α) → Prop where
  | quiet {x : Except SchemaError α} (h : Quiet x) : Asking fun _ => x
  | document {uri : String} {e : SchemaError}
      (he : e.missing? = some (Reference.normalize uri))
      {k : Value → Library.Source → Except SchemaError α}
      (hk : ∀ v, Asking (k v)) :
      Asking fun f => match f (Reference.normalize uri) with
        | none => .error e
        | some v => k v f

namespace Asking

theorem of_eq {x y : Library.Source → Except SchemaError α} (hx : Asking x)
    (h : ∀ f, x f = y f) : Asking y := by
  rwa [← funext h]

theorem bind {x : Library.Source → Except SchemaError α}
    {y : α → Library.Source → Except SchemaError β} (hx : Asking x)
    (hy : ∀ a, Asking (y a)) : Asking fun f => x f >>= fun a => y a f := by
  induction hx with
  | @quiet x h =>
      cases x with
      | ok a => exact hy a
      | error e => exact .quiet (.error (h.missing e rfl))
  | document he hk ih =>
      refine (Asking.document he ih).of_eq fun f => ?_
      dsimp only
      split <;> rfl

theorem foldlM {step : Library.Source → β → α → Except SchemaError β}
    (hstep : ∀ b a, Asking fun f => step f b a) (xs : List α) (b : β) :
    Asking fun f => xs.foldlM (step f) b := by
  induction xs generalizing b with
  | nil => exact .quiet (.ok b)
  | cons x rest ih =>
      simp only [List.foldlM_cons]
      exact bind (hstep b x) ih

theorem looksUp {x : Library.Source → Except SchemaError α} (h : Asking x) :
    LooksUp x := by
  induction h with
  | quiet h => exact .of_quiet h
  | document he _ ih => exact .document he ih

end Asking

/-! ## Gathering -/

namespace Library

theorem fetchWanted_asking (draft : Draft) (wanted : List Uri)
    (g : Gathering) : Asking fun source => fetchWanted source draft wanted g := by
  refine .foldlM (fun b uri => ?_) wanted _
  dsimp only
  split
  · exact .quiet (.ok _)
  · refine .document rfl fun contents => ?_
    exact .bind (.quiet (Draft.detect_quiet ..)) fun found => .quiet (.ok _)

theorem gatherRounds_asking (draft : Draft) (fuel : Nat)
    (pending : List Pending) (g : Gathering) :
    Asking fun source => gatherRounds source draft fuel pending g := by
  induction fuel generalizing pending g with
  | zero => exact .quiet (.ok g)
  | succ fuel ih =>
      simp only [gatherRounds]
      refine .bind (.quiet (gatherLevels_quiet ..)) fun g => ?_
      split
      · exact .quiet (.ok g)
      · exact .bind (fetchWanted_asking ..) fun b => ih b.2 b.1

theorem extend_asking (start : Library) (base : Uri) (root : Resource) :
    Asking fun source => start.extend source base root :=
  (gatherRounds_asking root.draft maxRounds [⟨base, root⟩]
    ⟨start.insert base root, [], []⟩).bind fun g => .quiet (.ok g.library)

end Library

/-! ## The judge -/

namespace Standard

theorem draftFor_asking (terms : Terms) (schema : Value) :
    Asking fun source => draftFor terms source schema := by
  unfold draftFor
  split
  · exact .quiet (.ok _)
  · split
    · split
      · next e he => exact .quiet (.error ((Uri.refer_quiet ..).missing e he))
      · next name _ _ _ uri _ =>
          have hask : SchemaError.missing? (.unknownDraft name
              (some (Reference.normalize uri.text))) = _ := rfl
          refine (Asking.document hask fun document => .quiet
            (Draft.detect_quiet .draft202012 document)).of_eq fun f => ?_
          dsimp only
          cases f (Reference.normalize uri.text) <;> rfl
    · exact .quiet (Draft.detect_quiet ..)

/-- The base of a schema that stands by itself. -/
def baseFor (draft : Draft) (schema : Value) : Except SchemaError Uri :=
  match draft.id? schema with
  | some id => Uri.ofId id
  | none => .ok Uri.rootBase

/-- As `prepare`, over a library, a check of schemas and a limit. -/
def prepareOver (start : Library)
    (check : Draft → Value → Except SchemaError Unit) (limit : Nat)
    (terms : Terms) (source : Library.Source) (schema : Value) :
    Except SchemaError Plan := do
  let draft ← draftFor terms source schema
  let base ← baseFor draft schema
  let library ← start.extend source base ⟨schema, draft⟩
  check draft schema
  let scope ← Scope.enter
    ⟨base, [], draft, Vocabulary.ofSchema library draft schema⟩ schema
  (Plan.compile library terms limit ⟨schema, scope⟩).run' []

/-- As `judge`, over a library, a check of schemas and a limit. -/
def judgeOver (start : Library)
    (check : Draft → Value → Except SchemaError Unit) (limit : Nat) : Judge where
  compile terms known schema :=
    match prepareOver start check limit terms known.find? schema with
    | .error e => .error ⟨e.message, e.missing?.toList⟩
    | .ok plan =>
      .ok fun v => do
        let trial : Trial := ⟨plan, v, Pointer.root⟩
        pure ⟨← trial.violationsWithin limit⟩

theorem judge_eq :
    judge = judgeOver Metaschema.library checkSchema Plan.depthLimit := by
  have hprepare : prepare =
      prepareOver Metaschema.library checkSchema Plan.depthLimit := by
    funext terms source schema
    unfold prepare prepareOver
    refine bind_congr fun draft => ?_
    unfold baseFor
    cases draft.id? schema <;> rfl
  unfold judge judgeOver
  rw [hprepare]
  rfl

/-- The standard judge without metaschemas. -/
def bare : Judge := judgeOver .empty (fun _ _ => .ok ()) Plan.depthLimit

theorem checkSchema_quiet (d : Draft) (schema : Value) :
    Quiet (checkSchema d schema) := by
  unfold checkSchema
  dsimp only
  split
  · exact .ok _
  · exact .error rfl

variable (start : Library) {check : Draft → Value → Except SchemaError Unit}
  (hcheck : ∀ d schema, Quiet (check d schema))

include hcheck

theorem prepareOver_asking (limit : Nat) (terms : Terms)
    (schema : Value) :
    Asking fun source =>
      prepareOver start check limit terms source schema := by
  have hbase : ∀ draft, Quiet (baseFor draft schema) := by
    intro draft
    unfold baseFor
    split
    · exact Uri.refer_quiet ..
    · exact .ok _
  exact .bind (draftFor_asking ..) fun draft => .bind (.quiet (hbase draft))
    fun base => .bind (Library.extend_asking ..) fun library =>
      .quiet (.bind (hcheck ..) fun _ =>
        .bind (Scope.enter_quiet ..) fun inner => Plan.ofSite_quiet ..)

theorem prepareOver_looksUp (limit : Nat) (terms : Terms)
    (schema : Value) :
    LooksUp fun source =>
      prepareOver start check limit terms source schema :=
  (prepareOver_asking start hcheck limit terms schema).looksUp

end Standard

/-- A judge that looks documents up one after the other and asks for the first
that is not there. -/
structure Judge.Reads (J : Judge) : Prop where
  accepts : ∀ {terms known larger schema verdict},
    Library.Source.Within known.find? larger.find? →
    J.compile terms known schema = .ok verdict →
    J.compile terms larger schema = .ok verdict
  refuses : ∀ {terms known larger schema e},
    Library.Source.Within known.find? larger.find? →
    J.compile terms known schema = .error e →
    (∀ name ∈ e.missing, larger.find? name = none) →
    J.compile terms larger schema = .error e
  asks : ∀ {terms known schema e},
    J.compile terms known schema = .error e →
    e.missing.length ≤ 1 ∧ ∀ name ∈ e.missing, known.find? name = none

theorem Standard.judgeOver_reads {start : Library}
    {check : Draft → Value → Except SchemaError Unit}
    (hcheck : ∀ d schema, Quiet (check d schema)) (limit : Nat) :
    (judgeOver start check limit).Reads where
  accepts {terms known larger schema verdict} hwithin h := by
    have hlooks := prepareOver_looksUp start hcheck limit terms schema
    simp only [judgeOver] at h ⊢
    cases hprepare : prepareOver start check limit terms known.find?
        schema with
    | error e =>
        rw [hprepare] at h
        cases h
    | ok plan =>
        rw [hprepare] at h
        rw [hlooks.finds hwithin hprepare]
        exact h
  refuses {terms known larger schema e} hwithin h hnone := by
    have hlooks := prepareOver_looksUp start hcheck limit terms schema
    simp only [judgeOver] at h ⊢
    cases hprepare : prepareOver start check limit terms known.find?
        schema with
    | error cause =>
        rw [hprepare] at h
        cases h
        rw [hlooks.fails hwithin hprepare fun key hkey =>
          hnone key (Option.mem_toList.2 hkey)]
    | ok plan =>
        rw [hprepare] at h
        cases h
  asks {terms known schema e} h := by
    have hlooks := prepareOver_looksUp start hcheck limit terms schema
    simp only [judgeOver] at h
    cases hprepare : prepareOver start check limit terms known.find?
        schema with
    | error cause =>
        rw [hprepare] at h
        cases h
        refine ⟨?_, fun name hname =>
          hlooks.asks hprepare name (Option.mem_toList.1 hname)⟩
        cases cause.missing? <;> simp
    | ok plan =>
        rw [hprepare] at h
        cases h

theorem Standard.judge_reads : judge.Reads := by
  rw [judge_eq]
  exact judgeOver_reads checkSchema_quiet Plan.depthLimit

theorem Standard.bare_reads : bare.Reads :=
  judgeOver_reads (fun _ _ => .ok ()) Plan.depthLimit

end SchemaPipeline
