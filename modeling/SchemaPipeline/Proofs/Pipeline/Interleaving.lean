import SchemaPipeline.Engine.Scripted
import SchemaPipeline.Proofs.Agenda.Admission
import SchemaPipeline.Proofs.Pipeline.Contract

/-!
# Pipelines while transforms are added

Validations run side by side on one registry, and transforms are added to it all
the while. A validation takes turns: it reads the transforms of a stage, or walks
one of those that it has read, or judges the value. Between two turns anything
can happen. A walk is one turn, as nothing that is added has a part in it.

A validation that has come some way has a rest before it. `resume` is what it
comes to from there, given the transforms of the stages that are still to begin,
and a turn leaves that as it is (`resume_advance`). So the outcome is the one of
the pipeline in one piece, run on the transforms that were there when each stage
began (`run_of_ended`). Of a stage that never began the transforms do not matter.

What was there when a stage began is what the registry had when the validation
began and what was added to that stage since, whoever else had a turn
(`found_iff`): a transform that is accepted is the last one of its stage, and one
that is refused leaves no trace.

A validation that gets its turns comes to an end, whatever is added in between:
the transforms of a stage are read once, and there are two stages (`settles`).
-/

namespace SchemaPipeline.Pipeline

variable {σ κ : Type} [SchemaContext κ]

/-! ## Turns -/

/-- How far a validation has come: a stage is to begin, or transforms wait to be
walked, or it has ended. There is no outcome before the value is judged. -/
inductive Phase where
  | ready (outcome : Option Outcome) (passes : List Pass) (data : Value)
  | walking (outcome : Option Outcome) (passes : List Pass)
      (waiting : List Visitor) (data : Value)
  | ended (r : Run)

/-- The stage of a validation with an outcome, or without one. -/
def stageOf : Option Outcome → Stage
  | none => .pre
  | some _ => .post

/-- The stage that begins with the next turn. -/
def Phase.begins : Phase → Option Stage
  | .ready outcome _ _ => some (stageOf outcome)
  | _ => none

/-- Where the judgment of a value leads. -/
def judge (v : Validator κ) (passes : List Pass) (data : Value) : Phase :=
  let outcome := SchemaContext.validate v.context data
  if outcome.report.isValid then .ready (some outcome) passes data
  else .ended ⟨passes, some outcome, .ok (Result.invalid data outcome.report.errors)⟩

/-- One turn of a validation, with the transforms as they are at the time. -/
def advance (v : Validator κ) (depth : Nat) (transforms : Stage → Agenda Visitor) :
    Phase → Phase
  | .ready outcome passes data =>
    match (transforms (stageOf outcome)).schedule with
    | .error e => .ended ⟨passes, outcome, .error (.error (.order e))⟩
    | .ok tasks => .walking outcome passes (tasks.map Task.item) data
  | .walking outcome passes (t :: rest) data =>
    match walkOf v depth t data with
    | (trace, .error stop) =>
      .ended ⟨passes ++ [⟨stageOf outcome, t.name, trace⟩], outcome,
        .error (stopOf (stageOf outcome) t stop)⟩
    | (trace, .ok next) =>
      .walking outcome (passes ++ [⟨stageOf outcome, t.name, trace⟩]) rest next
  | .walking none passes [] data => judge v passes data
  | .walking (some outcome) passes [] data =>
    .ended ⟨passes, some outcome, .ok (Result.valid data)⟩
  | .ended r => .ended r

/-! ## What is left to do -/

/-- The rest of a validation after what is left of a stage. -/
def conclude (v : Validator κ) (depth : Nat) (post : Agenda Visitor) :
    Option Outcome → List Pass → List Pass × Except Stop Value → Run
  | outcome, passes, (more, .error stop) => ⟨passes ++ more, outcome, .error stop⟩
  | some outcome, passes, (more, .ok data) =>
    ⟨passes ++ more, some outcome, .ok (Result.valid data)⟩
  | none, passes, (more, .ok data) =>
    let outcome := SchemaContext.validate v.context data
    if outcome.report.isValid then
      let (last, result) := runStage v depth .post post data
      ⟨passes ++ more ++ last, some outcome, result.map Result.valid⟩
    else
      ⟨passes ++ more, some outcome, .ok (Result.invalid data outcome.report.errors)⟩

/-- What a validation comes to, if the stages that are to begin have these
transforms. -/
def resume (v : Validator κ) (depth : Nat) (transforms : Stage → Agenda Visitor) :
    Phase → Run
  | .ready outcome passes data =>
    conclude v depth (transforms .post) outcome passes
      (runStage v depth (stageOf outcome) (transforms (stageOf outcome)) data)
  | .walking outcome passes waiting data =>
    conclude v depth (transforms .post) outcome passes
      (runVisitors v depth (stageOf outcome) waiting data)
  | .ended r => r

section

variable {v : Validator κ} {depth : Nat} {transforms now : Stage → Agenda Visitor}

theorem resume_ready (data : Value) :
    resume v depth transforms (.ready none [] data) =
      run v depth (transforms .pre) (transforms .post) data := by
  obtain ⟨passes, result, hpre⟩ := exists_staged v depth .pre (transforms .pre) data
  rw [resume, run, stageOf, hpre.runStage_eq]
  cases result <;> rfl

theorem conclude_cons {post : Agenda Visitor} {outcome : Option Outcome}
    {passes : List Pass} {pass : Pass} {rest : List Pass × Except Stop Value} :
    conclude v depth post outcome passes (pass :: rest.1, rest.2) =
      conclude v depth post outcome (passes ++ [pass]) rest := by
  obtain ⟨more, result⟩ := rest
  cases result <;> cases outcome <;>
    simp only [conclude, List.append_assoc, List.cons_append, List.nil_append]

theorem resume_judge {passes : List Pass} {data : Value} :
    resume v depth transforms (judge v passes data) =
      resume v depth transforms (.walking none passes [] data) := by
  rw [judge]
  by_cases hvalid : (SchemaContext.validate v.context data).report.isValid = true
  · obtain ⟨more, result, hpost⟩ :=
      exists_staged v depth .post (transforms .post) data
    simp only [if_pos hvalid, resume, stageOf, hpost.runStage_eq, runVisitors,
      conclude, List.append_nil]
    cases result <;> rfl
  · simp only [if_neg hvalid, resume, runVisitors, conclude, List.append_nil]

/-- A turn leaves the rest of a validation as it is, if a stage that begins with
it has the transforms that are there. -/
theorem resume_advance {p : Phase}
    (h : ∀ stage, p.begins = some stage → transforms stage = now stage) :
    resume v depth transforms (advance v depth now p) =
      resume v depth transforms p := by
  cases p with
  | ready outcome passes data =>
      rw [resume, h _ rfl, advance]
      cases hschedule : (now (stageOf outcome)).schedule with
      | error e => simp only [resume, runStage, hschedule, conclude, List.append_nil]
      | ok tasks => simp only [resume, runStage, hschedule]
  | walking outcome passes waiting data =>
      cases waiting with
      | nil =>
          cases outcome with
          | none => exact resume_judge
          | some outcome =>
              simp only [advance, resume, runVisitors, conclude, List.append_nil]
      | cons t rest =>
          rw [resume, advance]
          cases hwalk : walkOf v depth t data with
          | mk trace result =>
              cases result with
              | error stop =>
                  rw [runVisitors_cons_error hwalk]
                  rfl
              | ok next =>
                  rw [runVisitors_cons_ok hwalk, conclude_cons]
                  rfl
  | ended r => rfl

end

/-! ## Every validation settles -/

/-- Turn after turn the validation comes to its end, whatever the transforms are
at each turn. -/
inductive Settles (v : Validator κ) (depth : Nat) : Phase → Prop where
  | ended {r : Run} : Settles v depth (.ended r)
  | turn {p : Phase} (h : ∀ now, Settles v depth (advance v depth now p)) :
      Settles v depth p

theorem settles_walking {v : Validator κ} {depth : Nat} {outcome : Option Outcome}
    (h : ∀ passes data, Settles v depth (.walking outcome passes [] data))
    (passes : List Pass) (waiting : List Visitor) (data : Value) :
    Settles v depth (.walking outcome passes waiting data) := by
  induction waiting generalizing passes data with
  | nil => exact h passes data
  | cons t rest ih =>
      refine .turn fun now => ?_
      rw [advance]
      cases walkOf v depth t data with
      | mk trace result =>
          cases result with
          | error stop => exact .ended
          | ok next => exact ih _ next

theorem settles_ready {v : Validator κ} {depth : Nat} {outcome : Option Outcome}
    (h : ∀ passes data, Settles v depth (.walking outcome passes [] data))
    (passes : List Pass) (data : Value) :
    Settles v depth (.ready outcome passes data) := by
  refine .turn fun now => ?_
  rw [advance]
  cases (now (stageOf outcome)).schedule with
  | error e => exact .ended
  | ok tasks => exact settles_walking h passes _ data

/-- Nothing is left to walk: the value is judged, or the validation is over. -/
theorem settles_walked (v : Validator κ) (depth : Nat) (outcome : Option Outcome)
    (passes : List Pass) (data : Value) :
    Settles v depth (.walking outcome passes [] data) := by
  have hpost : ∀ outcome passes data,
      Settles v depth (.walking (some outcome) passes [] data) :=
    fun outcome passes data => .turn fun now => .ended
  cases outcome with
  | some outcome => exact hpost outcome passes data
  | none =>
      refine .turn fun now => ?_
      rw [advance, judge]
      split
      · exact settles_ready (hpost _) passes data
      · exact .ended

theorem settles (v : Validator κ) (depth : Nat) (p : Phase) : Settles v depth p := by
  cases p with
  | ready outcome passes data =>
      exact settles_ready (settles_walked v depth outcome) passes data
  | walking outcome passes waiting data =>
      exact settles_walking (settles_walked v depth outcome) passes waiting data
  | ended r => exact .ended

/-! ## Stages begin once -/

/-- The stage is still to begin. -/
def Phase.Pending : Phase → Stage → Prop
  | .ready none _ _, _ => True
  | .ready (some _) _ _, stage => stage = .post
  | .walking none _ _ _, stage => stage = .post
  | _, _ => False

theorem Phase.pending_of_begins {p : Phase} {stage : Stage}
    (h : p.begins = some stage) : p.Pending stage := by
  cases p with
  | ready outcome passes data =>
      cases outcome with
      | none => trivial
      | some outcome => exact (Option.some.inj h).symm
  | walking outcome passes waiting data => cases h
  | ended r => cases h

theorem pending_of_advance {v : Validator κ} {depth : Nat}
    {now : Stage → Agenda Visitor} {p : Phase} {stage : Stage}
    (h : (advance v depth now p).Pending stage) :
    p.Pending stage ∧ p.begins ≠ some stage := by
  cases p with
  | ready outcome passes data =>
      rw [advance] at h
      split at h
      · exact h.elim
      · cases outcome with
        | none =>
            obtain rfl : stage = .post := h
            exact ⟨trivial, nofun⟩
        | some outcome => exact h.elim
  | walking outcome passes waiting data =>
      refine ⟨?_, nofun⟩
      cases waiting with
      | cons t rest =>
          rw [advance] at h
          split at h
          · exact h.elim
          · cases outcome <;> exact h
      | nil =>
          cases outcome with
          | some outcome => exact h.elim
          | none =>
              rw [advance, judge] at h
              split at h
              · exact h
              · exact h.elim
  | ended r => exact h.elim

/-! ## Validations side by side -/

structure Call (κ : Type) where
  validator : Validator κ
  phase : Phase

/-- A registry with the validations that have begun on it. -/
structure System (σ κ : Type) where
  registry : Registry σ κ
  calls : List (Call κ)

/-- A transform is added, a schema is compiled, a validation begins, or one that
has begun has a turn. -/
inductive Event (κ : Type) where
  | add (stage : Stage) (t : Visitor) (after : List String)
  | compile (net : Network) (calls : Nat) (schema : Value)
  | validate (v : Validator κ) (data : Value)
  | turn (i : Nat)

/-- What an event offers to a stage. -/
def Event.offered (stage : Stage) : Event κ → Option (Task Visitor)
  | .add st t after => if st = stage then some ⟨t.name, t, after⟩ else none
  | _ => none

/-- What events offer to a stage, accepted or not, in their order. -/
def offers (stage : Stage) (events : List (Event κ)) : List (Task Visitor) :=
  events.filterMap (Event.offered stage)

def Call.advance (depth : Nat) (now : Stage → Agenda Visitor) (c : Call κ) : Call κ :=
  ⟨c.validator, Pipeline.advance c.validator depth now c.phase⟩

namespace System

def perform (depth : Nat) (s : System σ κ) : Event κ → System σ κ
  | .add stage t after => ⟨(s.registry.registerTransform stage t after).2, s.calls⟩
  | .compile net calls schema => ⟨(s.registry.compile net calls schema).registry, s.calls⟩
  | .validate v data => ⟨s.registry, s.calls ++ [⟨v, .ready none [] data⟩]⟩
  | .turn i => ⟨s.registry, s.calls.modify i (Call.advance depth s.registry.transforms)⟩

def after (depth : Nat) (s : System σ κ) (events : List (Event κ)) : System σ κ :=
  events.foldl (perform depth) s

def phase? (s : System σ κ) (i : Nat) : Option Phase := s.calls[i]?.map Call.phase

/-- The stage that begins with an event in a validation. -/
def begins (s : System σ κ) (i : Nat) : Event κ → Option Stage
  | .turn j => if j = i then (s.phase? i).bind Phase.begins else none
  | _ => none

/-- The transforms that a validation finds when a stage begins, if it does. -/
def found (depth : Nat) (stage : Stage) (i : Nat) :
    System σ κ → List (Event κ) → Option (Agenda Visitor)
  | _, [] => none
  | s, e :: rest =>
    if s.begins i e = some stage then some (s.registry.transforms stage)
    else found depth stage i (s.perform depth e) rest

section

variable {depth : Nat} {s : System σ κ} {i : Nat} {c : Call κ} {e : Event κ}

omit [SchemaContext κ] in
theorem begins_turn (h : s.calls[i]? = some c) :
    s.begins i (.turn i) = c.phase.begins := by
  rw [begins, if_pos rfl, phase?, h]
  rfl

omit [SchemaContext κ] in
theorem begins_of_ne (h : e ≠ .turn i) : s.begins i e = none := by
  cases e with
  | turn j => exact if_neg fun hj => h (congrArg Event.turn hj)
  | _ => rfl

omit [SchemaContext κ] in
theorem eq_turn_of_begins {stage : Stage} (h : s.begins i e = some stage) :
    e = .turn i := by
  by_contra hne
  rw [begins_of_ne hne] at h
  cases h

theorem calls_turn (h : s.calls[i]? = some c) :
    (s.perform depth (.turn i)).calls[i]? =
      some (c.advance depth s.registry.transforms) := by
  rw [perform, List.getElem?_modify, h, Option.map_eq_map, Option.map_some, if_pos rfl]

/-- Only its own turns bring a validation on. -/
theorem calls_of_ne (h : s.calls[i]? = some c) (hne : e ≠ .turn i) :
    (s.perform depth e).calls[i]? = some c := by
  cases e with
  | add stage t after => exact h
  | compile net calls schema => exact h
  | validate v data =>
      have hlt : i < s.calls.length := (List.getElem?_eq_some_iff.1 h).1
      rw [perform, List.getElem?_append_left hlt, h]
  | turn j =>
      have hj : j ≠ i := fun hj => hne (congrArg Event.turn hj)
      rw [perform, List.getElem?_modify, h, Option.map_eq_map, Option.map_some, if_neg hj]

theorem exists_call (depth : Nat) (e : Event κ) (h : s.calls[i]? = some c) :
    ∃ c', (s.perform depth e).calls[i]? = some c' := by
  by_cases he : e = .turn i
  · exact ⟨_, he ▸ calls_turn h⟩
  · exact ⟨c, calls_of_ne h he⟩

/-- A stage that is not to begin finds no transforms. -/
theorem found_eq_none {stage : Stage} {events : List (Event κ)}
    (h : s.calls[i]? = some c) (hstage : ¬ c.phase.Pending stage) :
    s.found depth stage i events = none := by
  induction events generalizing s c with
  | nil => rfl
  | cons e rest ih =>
      by_cases he : e = .turn i
      · subst he
        have hbegins : c.phase.begins ≠ some stage :=
          fun hb => hstage (Phase.pending_of_begins hb)
        rw [found, begins_turn h, if_neg hbegins]
        exact ih (calls_turn h) fun hp => hstage (pending_of_advance hp).1
      · rw [found, begins_of_ne he, if_neg nofun]
        exact ih (calls_of_ne h he) hstage

/-- A stage that begins does not begin again. -/
theorem found_eq_none_of_begins {stage : Stage} {events : List (Event κ)}
    (h : s.calls[i]? = some c) (hb : c.phase.begins = some stage) :
    (s.perform depth (.turn i)).found depth stage i events = none :=
  found_eq_none (calls_turn h) fun hpending => (pending_of_advance hpending).2 hb

/-- What a validation comes to is settled by the transforms that it finds. -/
theorem resume_after {transforms : Stage → Agenda Visitor}
    {events : List (Event κ)} (h : s.calls[i]? = some c)
    (hfound : ∀ stage set, s.found depth stage i events = some set →
      transforms stage = set) :
    ∃ p, (s.after depth events).calls[i]? = some ⟨c.validator, p⟩ ∧
      resume c.validator depth transforms p =
        resume c.validator depth transforms c.phase := by
  induction events generalizing s c with
  | nil => exact ⟨c.phase, h, rfl⟩
  | cons e rest ih =>
      by_cases he : e = .turn i
      · subst he
        have hstep : resume c.validator depth transforms
            (advance c.validator depth s.registry.transforms c.phase) =
              resume c.validator depth transforms c.phase := by
          refine resume_advance fun stage hb => hfound stage _ ?_
          rw [found, begins_turn h, if_pos hb]
        obtain ⟨p, hp, hresume⟩ := ih (calls_turn h) fun stage set hset => by
          by_cases hb : c.phase.begins = some stage
          · cases (found_eq_none_of_begins h hb).symm.trans hset
          · refine hfound stage set ?_
            rw [found, begins_turn h, if_neg hb, hset]
        exact ⟨p, hp, hresume.trans hstep⟩
      · refine ih (calls_of_ne h he) fun stage set hset => hfound stage set ?_
        rw [found, begins_of_ne he, if_neg nofun, hset]

end

/-- A validation that has ended comes to what the pipeline makes of its value in
one piece. -/
theorem run_of_ended {depth i : Nat} {s : System σ κ} {v : Validator κ}
    {data : Value} {events : List (Event κ)} {r : Run}
    {transforms : Stage → Agenda Visitor}
    (h : s.calls[i]? = some ⟨v, .ready none [] data⟩)
    (hended : (s.after depth events).phase? i = some (.ended r))
    (hfound : ∀ stage set, s.found depth stage i events = some set →
      transforms stage = set) :
    r = run v depth (transforms .pre) (transforms .post) data := by
  obtain ⟨p, hp, hresume⟩ := resume_after h hfound
  obtain rfl : p = .ended r := by
    rw [phase?, hp] at hended
    exact Option.some.inj hended
  exact hresume.trans (resume_ready data)

/-! ## What is found was added -/

section

variable {depth i : Nat} {stage : Stage}

omit [SchemaContext κ] in
theorem transforms_withTransforms {r : Registry σ κ} {set : Agenda Visitor} :
    (r.withTransforms stage set).transforms stage = set := by
  cases stage <;> rfl

omit [SchemaContext κ] in
theorem transforms_withTransforms_of_ne {other : Stage} {r : Registry σ κ}
    {set : Agenda Visitor} (h : other ≠ stage) :
    (r.withTransforms stage set).transforms other = r.transforms other := by
  cases stage <;> cases other <;> first | rfl | exact absurd rfl h

theorem transforms_perform (s : System σ κ) (e : Event κ) :
    (s.perform depth e).registry.transforms stage =
      (e.offered stage).elim (s.registry.transforms stage)
        (s.registry.transforms stage).offer := by
  cases e with
  | add st t after =>
      show ((s.registry.registerTransform st t after).2).transforms stage = _
      rw [Event.offered]
      by_cases hst : st = stage
      · subst hst
        rw [if_pos rfl]
        exact transforms_withTransforms
      · rw [if_neg hst]
        exact transforms_withTransforms_of_ne (Ne.symm hst)
  | compile net calls schema => cases stage <;> rfl
  | validate v data => rfl
  | turn j => rfl

/-- A stage has what was offered to it, in the order of the offers. -/
theorem transforms_after (s : System σ κ) (events : List (Event κ)) :
    (s.after depth events).registry.transforms stage =
      (offers stage events).foldl Agenda.offer (s.registry.transforms stage) := by
  induction events generalizing s with
  | nil => rfl
  | cons e rest ih =>
      rw [after, List.foldl_cons, ← after, ih, transforms_perform, offers, offers,
        List.filterMap_cons]
      cases e.offered stage <;> rfl

theorem exists_begins_of_found {s : System σ κ} {c : Call κ}
    {events : List (Event κ)} {set : Agenda Visitor} (h : s.calls[i]? = some c)
    (hfound : s.found depth stage i events = some set) :
    ∃ before rest, events = before ++ .turn i :: rest ∧
      (s.after depth before).begins i (.turn i) = some stage ∧
      set = (offers stage before).foldl Agenda.offer
        (s.registry.transforms stage) := by
  induction events generalizing s c with
  | nil => cases hfound
  | cons e rest ih =>
      rw [found] at hfound
      by_cases hb : s.begins i e = some stage
      · rw [if_pos hb] at hfound
        obtain rfl := eq_turn_of_begins hb
        exact ⟨[], rest, rfl, hb, (Option.some.inj hfound).symm⟩
      · rw [if_neg hb] at hfound
        obtain ⟨c', hc'⟩ := exists_call depth e h
        obtain ⟨before, later, rfl, hbegins, hset⟩ := ih hc' hfound
        refine ⟨e :: before, later, rfl, hbegins, ?_⟩
        rw [hset, ← transforms_after, ← transforms_after]
        rfl

theorem found_of_begins {s : System σ κ} {c : Call κ}
    {before rest : List (Event κ)} (h : s.calls[i]? = some c)
    (hbegins : (s.after depth before).begins i (.turn i) = some stage) :
    s.found depth stage i (before ++ .turn i :: rest) =
      some ((offers stage before).foldl Agenda.offer
        (s.registry.transforms stage)) := by
  induction before generalizing s c with
  | nil =>
      have hbegins' : s.begins i (.turn i) = some stage := hbegins
      rw [List.nil_append, found, if_pos hbegins']
      rfl
  | cons e before ih =>
      obtain ⟨c', hc'⟩ := exists_call depth e h
      have hlater := ih hc' hbegins
      rw [List.cons_append, found]
      by_cases hb : s.begins i e = some stage
      · obtain rfl := eq_turn_of_begins hb
        rw [begins_turn h] at hb
        cases (found_eq_none_of_begins h hb).symm.trans hlater
      · rw [if_neg hb, hlater, ← transforms_after, ← transforms_after]
        rfl

/-- A stage finds what the registry has at the turn in which it begins. -/
theorem found_iff {s : System σ κ} {c : Call κ} {events : List (Event κ)}
    {set : Agenda Visitor} (h : s.calls[i]? = some c) :
    s.found depth stage i events = some set ↔
      ∃ before rest, events = before ++ .turn i :: rest ∧
        (s.after depth before).begins i (.turn i) = some stage ∧
        set = (offers stage before).foldl Agenda.offer
          (s.registry.transforms stage) := by
  refine ⟨exists_begins_of_found h, ?_⟩
  rintro ⟨before, rest, rfl, hbegins, rfl⟩
  exact found_of_begins h hbegins

/-- Without offers a stage finds what the registry had. -/
theorem found_of_no_offers {s : System σ κ} {c : Call κ}
    {events : List (Event κ)} {set : Agenda Visitor}
    (h : s.calls[i]? = some c) (hnone : offers stage events = [])
    (hfound : s.found depth stage i events = some set) :
    s.registry.transforms stage = set := by
  obtain ⟨before, rest, rfl, -, rfl⟩ := (found_iff h).1 hfound
  rw [offers, List.filterMap_append, List.append_eq_nil_iff] at hnone
  rw [offers, hnone.1]
  rfl

end

/-! ## Fair schedules -/

/-- The validation has its turn again and again. -/
def Fair (i : Nat) (schedule : Nat → Event κ) : Prop :=
  ∀ n, ∃ k, schedule (n + k) = .turn i

omit [SchemaContext κ] in
theorem Fair.shift {i : Nat} {schedule : Nat → Event κ} (h : Fair i schedule) :
    Fair i fun n => schedule (n + 1) := by
  intro n
  obtain ⟨k, hk⟩ := h (n + 1)
  refine ⟨k, ?_⟩
  rwa [Nat.add_right_comm] at hk

/-- At some time of a schedule the validation has ended. -/
def Ends (depth i : Nat) (s : System σ κ) (schedule : Nat → Event κ) : Prop :=
  ∃ n r, (s.after depth ((List.range n).map schedule)).phase? i = some (.ended r)

theorem Ends.of_shift {depth i : Nat} {s : System σ κ} {schedule : Nat → Event κ}
    (h : Ends depth i (s.perform depth (schedule 0)) fun n => schedule (n + 1)) :
    Ends depth i s schedule := by
  obtain ⟨n, r, hr⟩ := h
  refine ⟨n + 1, r, ?_⟩
  rw [List.range_succ_eq_map, List.map_cons, List.map_map]
  exact hr

theorem ends_of_fair {depth i : Nat} {v : Validator κ} {p : Phase}
    (hsettles : Settles v depth p) {schedule : Nat → Event κ}
    (hfair : Fair i schedule) {s : System σ κ} (h : s.calls[i]? = some ⟨v, p⟩) :
    Ends depth i s schedule := by
  induction hsettles generalizing s schedule with
  | @ended r =>
      refine ⟨0, r, ?_⟩
      rw [List.range_zero, List.map_nil, after, List.foldl_nil, phase?, h]
      rfl
  | @turn p _ ih =>
      -- by induction on how long the next turn is to come
      obtain ⟨k, hk⟩ := hfair 0
      induction k generalizing s schedule with
      | zero =>
          have hturn : schedule 0 = .turn i := hk
          refine .of_shift ?_
          rw [hturn]
          exact ih s.registry.transforms hfair.shift (calls_turn h)
      | succ k ihk =>
          have hnext : schedule (0 + k + 1) = .turn i := hk
          refine .of_shift ?_
          by_cases hturn : schedule 0 = .turn i
          · rw [hturn]
            exact ih s.registry.transforms hfair.shift (calls_turn h)
          · exact ihk hfair.shift (calls_of_ne h hturn) hnext

/-- A validation that begins at any time comes to its end if it gets its turns,
whatever happens to the registry and to other validations in between.

It comes to what the pipeline makes of its value with the transforms that were
there when each stage began, so it keeps the contract of a pipeline with these.
They are the ones that the registry had, with what was offered to the stage up
to the turn in which it began: what is accepted comes last in its stage, what is
refused leaves the stage as it is, and the other stage has no part in it. With
no offers it is the validation of the registry.

A value that is not valid has the same result with all transforms after the
validation. A larger bound on the depth changes nothing about a run that did not
meet it. -/
theorem validate_interleaved (depth : Nat) (s : System σ κ) (v : Validator κ)
    (data : Value) :
    let begun := s.perform depth (.validate v data)
    let i := s.calls.length
    (∀ (events : List (Event κ)) (r : Run),
      (begun.after depth events).phase? i = some (.ended r) →
        (∀ transforms : Stage → Agenda Visitor,
          (∀ stage set, begun.found depth stage i events = some set →
            transforms stage = set) →
              r = run v depth (transforms .pre) (transforms .post) data ∧
                ∀ r', Contract v depth (transforms .pre) (transforms .post)
                  data r' ↔ r' = r) ∧
        ((∀ stage, offers stage events = []) →
          r = s.registry.validate v depth data)) ∧
      (∀ (events : List (Event κ)) (stage : Stage) (set : Agenda Visitor),
        begun.found depth stage i events = some set ↔
          ∃ before rest, events = before ++ .turn i :: rest ∧
            (begun.after depth before).begins i (.turn i) = some stage ∧
            set = (offers stage before).foldl Agenda.offer
              (s.registry.transforms stage)) ∧
      (∀ (stage : Stage) (t : Visitor) (after : List String),
        let answer := (s.registry.registerTransform stage t after).1
        let next := (s.perform depth (.add stage t after)).registry
        (answer = .ok () → (next.transforms stage).tasks =
          (s.registry.transforms stage).tasks ++ [⟨t.name, t, Agenda.dedup after⟩]) ∧
        (∀ e, answer = .error e →
          next.transforms stage = s.registry.transforms stage) ∧
        ∀ other, other ≠ stage →
          next.transforms other = s.registry.transforms other) ∧
      (∀ (pre : Agenda Visitor) (passes : List Pass) (mid : Value),
        Staged v depth .pre pre data passes (.ok mid) →
          (SchemaContext.validate v.context mid).report.violations ≠ [] →
            ∀ post post' : Agenda Visitor,
              run v depth pre post data = run v depth pre post' data) ∧
      (∀ (depth' : Nat) (pre post : Agenda Visitor), depth ≤ depth' →
        (∀ stop, (run v depth pre post data).result = .error stop →
          stop ≠ .exhausted) →
            run v depth' pre post data = run v depth pre post data) ∧
      ∀ schedule : Nat → Event κ, Fair i schedule → Ends depth i begun schedule := by
  intro begun i
  have hbegun : begun.calls[i]? = some ⟨v, .ready none [] data⟩ :=
    List.getElem?_concat_length
  refine ⟨fun events r hended => ⟨fun transforms hfound => ?_, fun hnone => ?_⟩,
    fun events stage set => found_iff hbegun, fun stage t after => ?_,
    fun pre passes mid => run_of_invalid,
    fun depth' pre post hdepth hstop => run_mono hdepth hstop,
    fun schedule hfair => ends_of_fair (settles v depth _) hfair hbegun⟩
  · have hrun : r = run v depth (transforms .pre) (transforms .post) data :=
      run_of_ended hbegun hended hfound
    refine ⟨hrun, fun r' => ?_⟩
    rw [contract_iff, hrun]
  · exact run_of_ended hbegun hended fun stage set hfound =>
      found_of_no_offers hbegun (hnone stage) hfound
  · intro answer next
    refine ⟨fun hok => ?_, fun e herror => ?_, fun other hother =>
      transforms_withTransforms_of_ne hother⟩
    · obtain ⟨-, hnew, hpush⟩ := Agenda.register_of_ok hok
      have hset : next.transforms stage = _ := transforms_withTransforms.trans hpush
      rw [hset]
      rfl
    · exact transforms_withTransforms.trans (Agenda.register_of_error herror).2

/-- The transform comes after the value was judged and before the stage after
the validation begins, and then a second time, when it is refused. The
validation finds it once. A value that is refused does not. -/
theorem validate_interleaved_late :
    let s : System Scripted.State Scripted.Context :=
      ⟨.new .withoutTransforms (Scripted.compiler ⟨[], [], [], false⟩) .start, []⟩
    let marking : Visitor := ⟨"marking", fun _ _ _ => .ok (.bool true)⟩
    let accepting : Validator Scripted.Context := ⟨.null, .null, [], .empty, false⟩
    let refusing : Validator Scripted.Context :=
      ⟨.null, .null, [], ⟨[⟨"", "no"⟩]⟩, false⟩
    let later := Agenda.empty.offer ⟨"marking", marking, []⟩
    let events : List (Event Scripted.Context) :=
      [.turn 0, .turn 0, .add .post marking [], .add .post marking [], .turn 0,
        .turn 0, .turn 0]
    (∃ r, ((s.perform 1 (.validate accepting (.string "a"))).after 1 events).phase? 0 =
        some (.ended r) ∧
      r = run accepting 1 .empty later (.string "a") ∧
      r.result.toOption.map Result.data = some (.bool true)) ∧
    (s.perform 1 (.validate accepting (.string "a"))).found 1 .post 0 events =
      some later ∧
    Ends 1 0 (s.perform 1 (.validate accepting (.string "a"))) (fun _ => .turn 0) ∧
    run refusing 1 .empty later (.string "a") =
      run refusing 1 .empty .empty (.string "a") := by
  intro s marking accepting refusing later events
  have hkept := validate_interleaved 1 s accepting (.string "a")
  have hpost : (s.perform 1 (.validate accepting (.string "a"))).found 1 .post 0
      events = some later :=
    (hkept.2.1 events .post later).2 ⟨events.take 4, events.drop 5, rfl, rfl, rfl⟩
  have hpre : (s.perform 1 (.validate accepting (.string "a"))).found 1 .pre 0
      events = some .empty :=
    (hkept.2.1 events .pre .empty).2 ⟨[], events.tail, rfl, rfl, rfl⟩
  refine ⟨⟨_, rfl, ?_, rfl⟩, hpost, hkept.2.2.2.2.2 _ fun n => ⟨0, rfl⟩, ?_⟩
  · have hrun := (hkept.1 events _ rfl).1 fun stage =>
      if stage = .pre then .empty else later
    refine (hrun fun stage set hset => ?_).1
    cases stage with
    | pre => exact Option.some.inj (hpre.symm.trans hset)
    | post => exact Option.some.inj (hpost.symm.trans hset)
  · have hrefused := validate_interleaved 1 s refusing (.string "a")
    exact hrefused.2.2.2.1 .empty [] (.string "a") (.done rfl .nil)
      (List.cons_ne_nil _ _) later .empty

end System

end SchemaPipeline.Pipeline
