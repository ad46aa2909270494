import SchemaPipeline.Validation.Scope

/-!
# Who asks for documents

Documents are asked for while a schema is gathered, and when the draft of a
schema is not known. All that is done with a schema otherwise fails for reasons
of its own: names are resolved, references are looked up in what was gathered,
and keywords are read.
-/

namespace SchemaPipeline

variable {α β : Type}

/-- A computation that asks for no document, whatever its fault. -/
structure Quiet (x : Except SchemaError α) : Prop where
  missing : ∀ e, x = .error e → e.missing? = none

namespace Quiet

theorem ok (a : α) : Quiet (.ok a) := ⟨nofun⟩

theorem error {e : SchemaError} (h : e.missing? = none) :
    Quiet (.error e : Except SchemaError α) := by
  refine ⟨?_⟩
  rintro _ ⟨⟩
  exact h

theorem bind {x : Except SchemaError α} {f : α → Except SchemaError β}
    (hx : Quiet x) (hf : ∀ a, Quiet (f a)) : Quiet (x >>= f) := by
  cases x with
  | ok a => exact hf a
  | error e => exact error (hx.missing e rfl)

theorem map {x : Except SchemaError α} (f : α → β) (hx : Quiet x) :
    Quiet (x.map f) := by
  cases x with
  | ok a => exact ok _
  | error e => exact error (hx.missing e rfl)

theorem foldlM {f : β → α → Except SchemaError β} (hf : ∀ b a, Quiet (f b a))
    (xs : List α) (b : β) : Quiet (xs.foldlM f b) := by
  induction xs generalizing b with
  | nil => exact ok b
  | cons x rest ih =>
      rw [List.foldlM_cons]
      exact bind (hf b x) ih

end Quiet

/-! ## Names and drafts -/

theorem Uri.refer_quiet (base : Uri) (reference : String) :
    Quiet (base.refer reference) := by
  unfold refer
  split
  · exact .ok _
  · split
    · exact .error rfl
    · split
      · exact .ok _
      · exact .error rfl

theorem Draft.detect_quiet (d : Draft) (schema : Value) :
    Quiet (d.detect schema) := by
  unfold detect
  split
  · exact .ok _
  · split
    · exact .ok _
    · exact .error rfl

/-! ## Gathering one schema -/

namespace Library

theorem wantedUri_quiet (base : Uri) (reference : String) :
    Quiet (wantedUri base reference) := by
  unfold wantedUri
  split
  · exact Uri.refer_quiet ..
  · split
    · exact Uri.refer_quiet ..
    · exact .map _ (Uri.refer_quiet ..)

theorem noteReferences_quiet (base : Uri) (fuel : Nat) (schema : Value)
    (g : Gathering) : Quiet (noteReferences base fuel schema g) := by
  induction fuel generalizing schema g with
  | zero => exact .ok g
  | succ fuel ih =>
      rw [noteReferences]
      split
      · exact .ok g
      · refine .foldlM (fun g key => ?_) _ g
        split
        · exact .ok g
        · split
          · exact .ok g
          · split
            · split
              · exact ih ..
              · exact .ok _
            · exact .map _ (wantedUri_quiet ..)

theorem innerBase_quiet (base : Uri) (r : Resource) :
    Quiet (innerBase base r) := by
  unfold innerBase
  split
  · exact Uri.refer_quiet ..
  · exact .ok base

theorem gatherOne_quiet (g : Gathering) (p : Pending) :
    Quiet (gatherOne g p) := by
  refine .bind (innerBase_quiet ..) fun base =>
    .bind (noteReferences_quiet ..) fun g => .foldlM (fun b schema => ?_) ..
  exact .bind (Draft.detect_quiet ..) fun draft =>
    .bind (innerBase_quiet ..) fun inner =>
      .bind (noteReferences_quiet ..) fun g => .ok _

theorem gatherLevels_quiet (fuel : Nat) (level : List Pending)
    (g : Gathering) : Quiet (gatherLevels fuel level g) := by
  induction fuel generalizing level g with
  | zero => exact .ok g
  | succ fuel ih =>
      rw [gatherLevels]
      split
      · exact .ok g
      · refine .bind (.foldlM (fun b p => ?_) ..) fun b => ih ..
        exact .bind (gatherOne_quiet ..) fun b => .ok _

end Library

/-! ## Looking references up -/

namespace Scope

theorem enter_quiet (s : Scope) (schema : Value) : Quiet (s.enter schema) := by
  unfold enter
  split
  · exact .map _ (Uri.refer_quiet ..)
  · exact .ok s

theorem site_quiet (s : Scope) (schema : Value) : Quiet (s.site schema) :=
  .map _ (enter_quiet ..)

theorem step_quiet (pointer : String) (v : Value) (token : String) :
    Quiet (Resource.step pointer v token) := by
  unfold Resource.step
  split
  · split
    · exact .error rfl
    · split
      · exact .ok _
      · exact .error rfl
  · dsimp only
    split
    · exact .ok _
    · exact .error rfl

theorem descend_quiet (pointer : String) (s : Scope) (v : Value)
    (path : List (Option String)) (tokens : List String) :
    Quiet (descend pointer s v path tokens) := by
  induction tokens generalizing s v path with
  | nil => exact .ok _
  | cons t rest ih =>
      rw [descend]
      split
      · next e he => exact .error ((step_quiet pointer v t).missing e he)
      · dsimp only
        split
        · split
          · next e he => exact .error ((enter_quiet ..).missing e he)
          · exact ih ..
        · exact ih ..

theorem findAnchor_quiet (l : Library) (uri : Uri) (r : Resource)
    (name : String) : Quiet (findAnchor l uri r name) := by
  have hmissing : Quiet (α := AnchorTarget)
      (.error (if name.toList.contains '/' then .badAnchor name
        else .noAnchor name)) := by
    split <;> exact .error rfl
  unfold findAnchor
  dsimp only
  split
  · exact .ok _
  · split
    · exact hmissing
    · split
      · next e he => exact .error ((Uri.refer_quiet ..).missing e he)
      · split
        · exact .ok _
        · exact hmissing

theorem anchorSite_quiet (l : Library) (s : Scope) (name : String)
    (t : AnchorTarget) : Quiet (anchorSite l s name t) := by
  unfold anchorSite
  split
  · exact .map _ (enter_quiet ..)
  · exact .ok _

theorem splitReference_quiet (s : Scope) (reference : String) :
    Quiet (s.splitReference reference) := by
  unfold splitReference
  split
  · exact .ok _
  · exact .map _ (Uri.refer_quiet ..)

theorem lookup_quiet (l : Library) (s : Scope) (reference : String) :
    Quiet (s.lookup l reference) := by
  refine .bind (splitReference_quiet ..) fun p => ?_
  dsimp only
  split
  · exact .error rfl
  · split
    · split
      · exact .error rfl
      · exact .map _ (descend_quiet ..)
    · split
      · exact .ok _
      · exact .bind (findAnchor_quiet ..) fun t =>
          .map _ (anchorSite_quiet ..)

theorem revisit_quiet (s : Scope) (target : Site) :
    Quiet (s.revisit target) :=
  .map _ (enter_quiet ..)

theorem lookupRecursive_quiet (l : Library) (s : Scope) :
    Quiet (s.lookupRecursive l) := by
  refine .bind (lookup_quiet ..) fun found => ?_
  split
  · exact .ok _
  · exact .ok _

end Scope

end SchemaPipeline
