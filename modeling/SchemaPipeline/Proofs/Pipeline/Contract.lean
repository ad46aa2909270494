import SchemaPipeline.Pipeline.Basic
import SchemaPipeline.Proofs.Walk.Sites

/-!
# The contract of a pipeline

What a pipeline does is told here without the functions that do it. In a stage
the transforms are walked in the order of their agenda, each on what the one
before it made (`Chain`), until one of them stops; an agenda without an order
stops the stage before any walk (`Staged`). Between the stages the value is
judged, and only a value without violations goes on (`Contract`).

A pipeline has exactly one outcome, and it is the one that is computed
(`contract_iff`). So the cases of a contract can be read in both directions, as
what may happen and as what has to.

The bound on the depth of a walk is bookkeeping: `run_mono` says that a pipeline
that did not meet it does the same with every larger one.
-/

namespace SchemaPipeline.Pipeline

variable {κ : Type} [SchemaContext κ]

/-! ## Walks in a row -/

/-- The walk of a transform under a validator. -/
def walkOf (v : Validator κ) (depth : Nat) (t : Visitor) (data : Value) :
    Walk.Step Value :=
  Walk.run t depth data (some v.schema) (some v.context)

/-- Why a pipeline stops when a walk does. -/
def stopOf (stage : Stage) (t : Visitor) : Walk.Stop → Stop
  | .failure e => .error (.transform stage t.name e)
  | .exhausted => .exhausted

/-- Transforms walked to the end, each on what the one before it made. -/
inductive Chain (v : Validator κ) (depth : Nat) (stage : Stage) :
    List Visitor → Value → List Pass → Value → Prop where
  | nil {data : Value} : Chain v depth stage [] data [] data
  | cons {t : Visitor} {rest : List Visitor} {data next last : Value}
      {trace : Walk.Trace} {passes : List Pass}
      (hwalk : walkOf v depth t data = (trace, .ok next))
      (hrest : Chain v depth stage rest next passes last) :
      Chain v depth stage (t :: rest) data (⟨stage, t.name, trace⟩ :: passes) last

section

variable {v : Validator κ} {depth : Nat} {stage : Stage}

theorem runVisitors_cons_ok {t : Visitor} {rest : List Visitor}
    {data next : Value} {trace : Walk.Trace}
    (h : walkOf v depth t data = (trace, .ok next)) :
    runVisitors v depth stage (t :: rest) data =
      (⟨stage, t.name, trace⟩ :: (runVisitors v depth stage rest next).1,
        (runVisitors v depth stage rest next).2) := by
  rw [walkOf] at h
  rw [runVisitors, h]

theorem runVisitors_cons_error {t : Visitor} {rest : List Visitor} {data : Value}
    {trace : Walk.Trace} {stop : Walk.Stop}
    (h : walkOf v depth t data = (trace, .error stop)) :
    runVisitors v depth stage (t :: rest) data =
      ([⟨stage, t.name, trace⟩], .error (stopOf stage t stop)) := by
  rw [walkOf] at h
  rw [runVisitors, h]
  cases stop <;> rfl

theorem Chain.runVisitors_append {before after : List Visitor}
    {data mid : Value} {passes : List Pass}
    (h : Chain v depth stage before data passes mid) :
    runVisitors v depth stage (before ++ after) data =
      (passes ++ (runVisitors v depth stage after mid).1,
        (runVisitors v depth stage after mid).2) := by
  induction h with
  | nil => rfl
  | cons hwalk _ ih =>
      rw [List.cons_append, runVisitors_cons_ok hwalk, ih]
      rfl

/-- Transforms are walked to the end, or one of them is the last. -/
theorem runVisitors_cases (v : Validator κ) (depth : Nat) (stage : Stage)
    (ts : List Visitor) (data : Value) :
    (∃ passes last, Chain v depth stage ts data passes last) ∨
      ∃ before t after passes mid trace stop, ts = before ++ t :: after ∧
        Chain v depth stage before data passes mid ∧
        walkOf v depth t mid = (trace, .error stop) := by
  induction ts generalizing data with
  | nil => exact .inl ⟨[], data, .nil⟩
  | cons t rest ih =>
      cases hwalk : walkOf v depth t data with
      | mk trace result =>
          cases result with
          | error stop => exact .inr ⟨[], t, rest, [], data, trace, stop, rfl, .nil, hwalk⟩
          | ok next =>
              rcases ih next with ⟨passes, last, hchain⟩ |
                ⟨before, t', after, passes, mid, trace', stop, hsplit, hchain, hstop⟩
              · exact .inl ⟨_, last, .cons hwalk hchain⟩
              · refine .inr ⟨t :: before, t', after, _, mid, trace', stop, ?_,
                  .cons hwalk hchain, hstop⟩
                rw [hsplit, List.cons_append]

end

/-! ## Stages -/

/-- What becomes of a value in a stage, with the walks that are made. -/
inductive Staged (v : Validator κ) (depth : Nat) (stage : Stage)
    (transforms : Agenda Visitor) (data : Value) :
    List Pass → Except Stop Value → Prop where
  | unordered {e : AgendaError} (h : transforms.schedule = .error e) :
      Staged v depth stage transforms data [] (.error (.error (.order e)))
  | stopped {tasks : List (Task Visitor)} {before after : List Visitor}
      {t : Visitor} {passes : List Pass} {mid : Value} {trace : Walk.Trace}
      {stop : Walk.Stop} (h : transforms.schedule = .ok tasks)
      (hsplit : tasks.map Task.item = before ++ t :: after)
      (hchain : Chain v depth stage before data passes mid)
      (hwalk : walkOf v depth t mid = (trace, .error stop)) :
      Staged v depth stage transforms data
        (passes ++ [⟨stage, t.name, trace⟩]) (.error (stopOf stage t stop))
  | done {tasks : List (Task Visitor)} {passes : List Pass} {last : Value}
      (h : transforms.schedule = .ok tasks)
      (hchain : Chain v depth stage (tasks.map Task.item) data passes last) :
      Staged v depth stage transforms data passes (.ok last)

section

variable {v : Validator κ} {depth : Nat} {stage : Stage}
  {transforms : Agenda Visitor} {data : Value}

theorem runStage_of_schedule {tasks : List (Task Visitor)}
    (h : transforms.schedule = .ok tasks) :
    runStage v depth stage transforms data =
      runVisitors v depth stage (tasks.map Task.item) data := by
  rw [runStage, h]

theorem Staged.runStage_eq {passes : List Pass} {result : Except Stop Value}
    (h : Staged v depth stage transforms data passes result) :
    runStage v depth stage transforms data = (passes, result) := by
  cases h with
  | unordered h => rw [runStage, h]
  | stopped h hsplit hchain hwalk =>
      rw [runStage_of_schedule h, hsplit, hchain.runVisitors_append,
        runVisitors_cons_error hwalk]
  | @done tasks passes last h hchain =>
      have hall : runVisitors v depth stage (tasks.map Task.item ++ []) data =
          (passes ++ [], .ok last) := hchain.runVisitors_append
      rw [List.append_nil, List.append_nil] at hall
      rw [runStage_of_schedule h, hall]

theorem exists_staged (v : Validator κ) (depth : Nat) (stage : Stage)
    (transforms : Agenda Visitor) (data : Value) :
    ∃ passes result, Staged v depth stage transforms data passes result := by
  cases h : transforms.schedule with
  | error e => exact ⟨_, _, .unordered h⟩
  | ok tasks =>
      rcases runVisitors_cases v depth stage (tasks.map Task.item) data with
        ⟨passes, last, hchain⟩ |
          ⟨before, t, after, passes, mid, trace, stop, hsplit, hchain, hwalk⟩
      · exact ⟨passes, .ok last, .done h hchain⟩
      · exact ⟨_, _, .stopped h hsplit hchain hwalk⟩

end

/-! ## Pipelines -/

/-- What becomes of a value in a pipeline. The transforms after the validation
have a part in it only if the value is valid. -/
inductive Contract (v : Validator κ) (depth : Nat) (pre post : Agenda Visitor)
    (data : Value) : Run → Prop where
  | stopped {passes : List Pass} {stop : Stop}
      (hpre : Staged v depth .pre pre data passes (.error stop)) :
      Contract v depth pre post data ⟨passes, none, .error stop⟩
  | invalid {passes : List Pass} {mid : Value} {outcome : Outcome}
      (hpre : Staged v depth .pre pre data passes (.ok mid))
      (houtcome : SchemaContext.validate v.context mid = outcome)
      (hreport : outcome.report.violations ≠ []) :
      Contract v depth pre post data
        ⟨passes, some outcome, .ok ⟨mid, false, some outcome.report.errors⟩⟩
  | valid {passes more : List Pass} {mid : Value} {outcome : Outcome}
      {result : Except Stop Value}
      (hpre : Staged v depth .pre pre data passes (.ok mid))
      (houtcome : SchemaContext.validate v.context mid = outcome)
      (hreport : outcome.report.violations = [])
      (hpost : Staged v depth .post post mid more result) :
      Contract v depth pre post data
        ⟨passes ++ more, some outcome, result.map fun last => ⟨last, true, none⟩⟩

section

variable {v : Validator κ} {depth : Nat} {pre post : Agenda Visitor} {data : Value}

theorem isValid_iff {r : Report} : r.isValid = true ↔ r.violations = [] :=
  List.isEmpty_iff

theorem Contract.eq_run {r : Run} (h : Contract v depth pre post data r) :
    r = run v depth pre post data := by
  cases h with
  | stopped hpre => rw [run, hpre.runStage_eq]
  | invalid hpre houtcome hreport =>
      subst houtcome
      simp only [run, hpre.runStage_eq, if_neg (mt isValid_iff.1 hreport)]
      rfl
  | valid hpre houtcome hreport hpost =>
      subst houtcome
      simp only [run, hpre.runStage_eq, if_pos (isValid_iff.2 hreport),
        hpost.runStage_eq]
      rfl

theorem exists_contract (v : Validator κ) (depth : Nat) (pre post : Agenda Visitor)
    (data : Value) : ∃ r, Contract v depth pre post data r := by
  obtain ⟨passes, result, hpre⟩ := exists_staged v depth .pre pre data
  cases result with
  | error stop => exact ⟨_, .stopped hpre⟩
  | ok mid =>
      by_cases hreport : (SchemaContext.validate v.context mid).report.violations = []
      · obtain ⟨more, last, hpost⟩ := exists_staged v depth .post post mid
        exact ⟨_, .valid hpre rfl hreport hpost⟩
      · exact ⟨_, .invalid hpre rfl hreport⟩

theorem contract_iff {r : Run} :
    Contract v depth pre post data r ↔ r = run v depth pre post data := by
  constructor
  · exact Contract.eq_run
  · rintro rfl
    obtain ⟨r, hr⟩ := exists_contract v depth pre post data
    rwa [← hr.eq_run]

/-- Invalid data comes back the same whatever the transforms after it are. -/
theorem run_of_invalid {passes : List Pass} {mid : Value}
    (hpre : Staged v depth .pre pre data passes (.ok mid))
    (hreport : (SchemaContext.validate v.context mid).report.violations ≠ [])
    (post post' : Agenda Visitor) :
    run v depth pre post data = run v depth pre post' data := by
  have hcontract : ∀ set : Agenda Visitor, Contract v depth pre set data
      ⟨passes, some (SchemaContext.validate v.context mid),
        .ok ⟨mid, false, some (SchemaContext.validate v.context mid).report.errors⟩⟩ :=
    fun set => .invalid hpre rfl hreport
  rw [← (hcontract post).eq_run, ← (hcontract post').eq_run]

end

/-! ## Larger bounds -/

section

variable {v : Validator κ} {depth depth' : Nat} {stage : Stage}
  {pre post : Agenda Visitor} {data : Value}

theorem walkOf_mono {t : Visitor} (hdepth : depth ≤ depth')
    (h : (walkOf v depth t data).2 ≠ .error .exhausted) :
    walkOf v depth' t data = walkOf v depth t data := by
  let site : Walk.Site κ := ⟨data, .root, some v.schema, some v.context⟩
  have hwalk : ∀ d, walkOf v d t data = Walk.walkAt t d site := fun d => rfl
  rw [hwalk] at h
  rw [hwalk, hwalk, Walk.walkAt_mono hdepth h]

theorem Chain.mono {ts : List Visitor} {passes : List Pass} {last : Value}
    (hdepth : depth ≤ depth') (h : Chain v depth stage ts data passes last) :
    Chain v depth' stage ts data passes last := by
  induction h with
  | nil => exact .nil
  | cons hwalk _ ih =>
      refine .cons ?_ ih
      rw [walkOf_mono hdepth (by rw [hwalk]; nofun), hwalk]

theorem Staged.mono {transforms : Agenda Visitor} {passes : List Pass}
    {result : Except Stop Value} (hdepth : depth ≤ depth')
    (h : Staged v depth stage transforms data passes result)
    (hresult : result ≠ .error .exhausted) :
    Staged v depth' stage transforms data passes result := by
  cases h with
  | unordered h => exact .unordered h
  | @stopped tasks before after t passes mid trace stop h hsplit hchain hwalk =>
      refine .stopped h hsplit (hchain.mono hdepth) ?_
      have hstop : (walkOf v depth t mid).2 ≠ .error .exhausted := by
        rw [hwalk]
        rintro ⟨⟩
        exact hresult rfl
      rw [walkOf_mono hdepth hstop, hwalk]
  | done h hchain => exact .done h (hchain.mono hdepth)

theorem Contract.mono {r : Run} (hdepth : depth ≤ depth')
    (h : Contract v depth pre post data r)
    (hresult : ∀ stop, r.result = .error stop → stop ≠ .exhausted) :
    Contract v depth' pre post data r := by
  cases h with
  | @stopped passes stop hpre =>
      refine .stopped (hpre.mono hdepth ?_)
      rintro ⟨⟩
      exact hresult _ rfl rfl
  | invalid hpre houtcome hreport =>
      exact .invalid (hpre.mono hdepth nofun) houtcome hreport
  | valid hpre houtcome hreport hpost =>
      refine .valid (hpre.mono hdepth nofun) houtcome hreport (hpost.mono hdepth ?_)
      rintro rfl
      exact hresult _ rfl rfl

/-- A pipeline that did not meet its bound does the same with a larger one. -/
theorem run_mono (hdepth : depth ≤ depth')
    (h : ∀ stop, (run v depth pre post data).result = .error stop →
      stop ≠ .exhausted) :
    run v depth' pre post data = run v depth pre post data :=
  ((contract_iff.2 rfl).mono hdepth h).eq_run.symm

end

end SchemaPipeline.Pipeline
