import SchemaPipeline.Engine.Retrieval
import SchemaPipeline.Proofs.Engine.Table
import SchemaPipeline.Proofs.Validation.Lookup

/-!
# What a judge reports

A retriever answers from the table of known documents and notes the names it
does not have, so nothing has to be known of a judge to know what it reports:
its `Build` is any way of asking. The standard judge is a judge by such builds
(`Standard.judge_builds`). It asks for one document after the other and gives up
at the first that is not there.
-/

namespace SchemaPipeline

/-! ## Retrievers -/

namespace Retriever

/-- What is noted is noted once, and is not there. -/
structure Honest (r : Retriever) : Prop where
  nodup : r.missing.Nodup
  absent : ∀ name ∈ r.missing, r.known.find? name = none

theorem Honest.start (known : Documents) : Honest ⟨known, []⟩ where
  nodup := List.nodup_nil
  absent _ h := by cases h

variable {r : Retriever}

theorem Honest.retrieve (h : r.Honest) (uri : String) :
    (r.retrieve uri).2.Honest := by
  unfold Retriever.retrieve
  dsimp only
  split
  · exact h
  · next hnone =>
      refine ⟨nodup_addNew _ h.nodup, fun name hname => ?_⟩
      rcases mem_addNew.1 hname with hold | rfl
      · exact h.absent name hold
      · exact hnone

theorem retrieve_known (r : Retriever) (uri : String) :
    (r.retrieve uri).2.known = r.known := by
  unfold retrieve
  dsimp only
  split <;> rfl

/-- Nothing is noted but the name of the URI. -/
theorem mem_missing_retrieve {uri name : String}
    (h : name ∈ (r.retrieve uri).2.missing) :
    name ∈ r.missing ∨ name = Reference.normalize uri := by
  unfold retrieve at h
  dsimp only at h
  split at h
  · exact .inl h
  · exact mem_addNew.1 h

end Retriever

/-! ## Builds -/

namespace Build

variable {r : Retriever}

theorem honest_run (b : Build) (h : r.Honest) : (b.run r).2.Honest := by
  induction b generalizing r with
  | done outcome => exact h
  | ask uri next ih => exact ih _ (h.retrieve uri)

theorem known_run (b : Build) (r : Retriever) : (b.run r).2.known = r.known := by
  induction b generalizing r with
  | done outcome => rfl
  | ask uri next ih => exact (ih _ _).trans (r.retrieve_known uri)

theorem mem_missing_run {b : Build} {name : String}
    (h : name ∈ (b.run r).2.missing) :
    name ∈ r.missing ∨ ∃ uri ∈ b.asked r, name = Reference.normalize uri := by
  induction b generalizing r with
  | done outcome => exact .inl h
  | ask uri next ih =>
      rcases ih _ h with hold | ⟨later, hmem, rfl⟩
      · refine (Retriever.mem_missing_retrieve hold).imp_right fun heq => ?_
        exact ⟨uri, List.mem_cons_self, heq⟩
      · exact .inr ⟨later, List.mem_cons_of_mem _ hmem, rfl⟩

end Build

/-! ## Reports -/

namespace Documents

theorem not_mem_map_fst_of_find? {entries : List (String × Value)}
    {name : String} (h : Members.find? entries name = none) :
    name ∉ entries.map Prod.fst := by
  induction entries with
  | nil => nofun
  | cons e rest ih =>
      rw [Members.find?] at h
      split at h
      · cases h
      · next hne =>
          rw [List.map_cons, List.mem_cons, not_or]
          exact ⟨fun heq => hne (beq_iff_eq.2 heq.symm), ih h⟩

/-- A name that is not in the table belongs neither to the schema nor to a
document, and to no resource inside them. -/
theorem unclaimed_of_find? {schema : Value} {given : Documents} {name : String}
    (h : (known schema given).find? name = none) :
    (own schema).find? name = none ∧ name ∉ given.names ∧
      ∀ e ∈ given.entries, name ∉ claims e := by
  rw [find?_known, Option.or_eq_none_iff, List.findSome?_eq_none_iff] at h
  have hclaims : ∀ e ∈ given.entries, name ∉ claims e := fun e he =>
    not_mem_map_fst_of_find? (h.2 e he)
  refine ⟨h.1, fun hmem => ?_, hclaims⟩
  obtain ⟨e, he, rfl⟩ := List.mem_map.1 hmem
  exact hclaims e he List.mem_cons_self

end Documents

namespace Judge

variable {builds : Terms → Value → Build} {settings : Settings}
  {schema : Value} {given : Documents} {names : List String}

theorem missing_of_context {J : Judge}
    (h : J.context settings schema given = .error (.missing names)) :
    names ≠ [] ∧ ∃ reason,
      J.compile settings.terms (Documents.known schema given) schema =
        .error ⟨reason, names⟩ := by
  unfold context at h
  dsimp only at h
  split at h
  · cases h
  · next e hcompile =>
      split at h
      · cases h
      · next hsome =>
          cases h
          refine ⟨fun hnil => hsome (by rw [hnil]; rfl), e.reason, hcompile⟩

/-- A report names something. It names nothing twice, nothing that was not asked
for, and nothing that is there. -/
theorem report_ofBuilds (h : (Judge.ofBuilds builds).context settings schema
      given = .error (.missing names)) :
    names ≠ [] ∧ names.Nodup ∧ ∀ name ∈ names,
      (∃ uri ∈ (builds settings.terms schema).asked ⟨Documents.known schema given, []⟩,
        name = Reference.normalize uri) ∧
      (Documents.known schema given).find? name = none := by
  obtain ⟨hne, reason, hcompile⟩ := missing_of_context h
  unfold ofBuilds at hcompile
  dsimp only at hcompile
  split at hcompile
  · cases hcompile
  · next r hrun =>
      cases hcompile
      have hhonest := (builds settings.terms schema).honest_run
        (.start (Documents.known schema given))
      have hknown := (builds settings.terms schema).known_run
        ⟨Documents.known schema given, []⟩
      rw [hrun] at hhonest hknown
      refine ⟨hne, hhonest.nodup, fun name hname => ⟨?_, ?_⟩⟩
      · have hmem : name ∈ ((builds settings.terms schema).run
            ⟨Documents.known schema given, []⟩).2.missing := by
          rw [hrun]
          exact hname
        exact (Build.mem_missing_run hmem).resolve_left nofun
      · have habsent := hhonest.absent name hname
        rwa [show r.known = Documents.known schema given from hknown] at habsent

end Judge

/-! ## The standard judge -/

/-- A computation that asks for documents can be carried out by a build, which
notes just the document that it fails at. -/
theorem Asking.exists_build {α : Type}
    {x : Library.Source → Except SchemaError α} (hx : Asking x)
    (verdict : α → Verdict) : ∃ b : Build, ∀ known : Documents,
      b.run ⟨known, []⟩ =
        match x known.find? with
        | .ok a => (.ok (verdict a), ⟨known, []⟩)
        | .error e => (.error e.message, ⟨known, e.missing?.toList⟩) := by
  induction hx with
  | @quiet x h =>
      cases x with
      | ok a => exact ⟨.done (.ok (verdict a)), fun known => rfl⟩
      | error e =>
          refine ⟨.done (.error e.message), fun known => ?_⟩
          simp only [h.missing e rfl, Option.toList_none]
          rfl
  | @document uri e he k hk ih =>
      choose b hb using ih
      refine ⟨.ask uri fun
        | .ok v => b v
        | .error _ => .done (.error e.message), fun known => ?_⟩
      simp only [Build.run, Retriever.retrieve]
      cases known.find? (Reference.normalize uri) with
      | none =>
          simp only [he, Option.toList_some]
          rfl
      | some v => exact hb v known

namespace Standard

/-- Whatever library it starts from, the judge makes its verdicts by builds. -/
theorem judgeOver_builds {start : Library}
    {check : Draft → Value → Except SchemaError Unit}
    (hcheck : ∀ d schema, Quiet (check d schema)) (limit : Nat) :
    ∃ builds, judgeOver start check limit = Judge.ofBuilds builds := by
  choose builds hbuilds using fun settings schema =>
    (prepareOver_asking start hcheck limit settings
      schema).exists_build fun plan v => do
        let trial : Trial := ⟨plan, v, Pointer.root⟩
        pure ⟨← trial.violationsWithin limit⟩
  refine ⟨builds, ?_⟩
  unfold judgeOver Judge.ofBuilds
  congr
  funext settings known schema
  rw [hbuilds]
  cases prepareOver start check limit settings known.find? schema <;> rfl

theorem judge_builds : ∃ builds, judge = Judge.ofBuilds builds := by
  rw [judge_eq]
  exact judgeOver_builds checkSchema_quiet Plan.depthLimit

end Standard

end SchemaPipeline
