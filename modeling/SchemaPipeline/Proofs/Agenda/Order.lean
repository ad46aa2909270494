import Mathlib.Data.Fintype.EquivFin
import Mathlib.Data.Fintype.Sets
import Mathlib.Order.WellFounded
import SchemaPipeline.Proofs.Agenda.Admission
import SchemaPipeline.Proofs.Agenda.Counting

/-!
# The order of an agenda

Counting comes to what `arrange` comes to, which takes, round by round, the
first waiting task whose prerequisites are done. Three things make its answer
the right one.

It never gets stuck. The waiting tasks and the names that are done make up
the agenda, so a round in which nothing is ready would leave every waiting
task with a prerequisite among the waiting ones, and an agenda without
cycles has no room for that.

What it takes is ready, so each task comes after its prerequisites.

And it is the least order in the places of the names. Another order that is
valid from the same point on starts with a ready task as well; that task
stands at the first ready one or behind it, and if it is the same the two
orders part later.
-/

namespace SchemaPipeline

namespace Agenda

open Relation (TransGen)

variable {α : Type}

/-- Each task of a list comes after all of its prerequisites. -/
def Respects (order : List (Task α)) : Prop :=
  ∀ before t after, order = before ++ t :: after →
    t.prerequisites ⊆ before.map Task.name

/-- The same for a list that is scheduled when the given names are done. -/
def RespectsFrom : List String → List (Task α) → Prop
  | _, [] => True
  | done, t :: rest =>
    t.prerequisites ⊆ done ∧ RespectsFrom (t.name :: done) rest

/-- The place of a task in the agenda. -/
def place (a : Agenda α) (t : Task α) : Nat := a.names.idxOf t.name

/-- The first order comes before the second in the order of a dictionary,
with the places of the tasks for letters. -/
def Precedes (a : Agenda α) (first second : List (Task α)) : Prop :=
  List.Lex (· < ·) (first.map a.place) (second.map a.place)

theorem not_precedes_nil (a : Agenda α) (order : List (Task α)) :
    ¬ a.Precedes order [] := List.not_lex_nil

theorem precedes_cons {a : Agenda α} {s t : Task α}
    {first second : List (Task α)} :
    a.Precedes (s :: first) (t :: second) ↔
      a.place s < a.place t ∨
        (a.place s = a.place t ∧ a.Precedes first second) :=
  List.cons_lex_cons_iff

theorem respectsFrom_iff {done : List String} {order : List (Task α)} :
    RespectsFrom done order ↔
      ∀ before t after, order = before ++ t :: after →
        ∀ p ∈ t.prerequisites, p ∈ before.map Task.name ∨ p ∈ done := by
  induction order generalizing done with
  | nil =>
      refine ⟨fun _ before t after h => ?_, fun _ => trivial⟩
      cases before <;> cases h
  | cons s rest ih =>
      rw [RespectsFrom, ih]
      constructor
      · rintro ⟨hs, hrest⟩ before t after h p hp
        cases before with
        | nil =>
            cases h
            exact .inr (hs hp)
        | cons b before =>
            cases h
            rcases hrest before t after rfl p hp with hmem | hmem
            · exact .inl (List.mem_cons_of_mem _ hmem)
            · rcases List.mem_cons.1 hmem with rfl | hmem
              · exact .inl List.mem_cons_self
              · exact .inr hmem
      · intro h
        constructor
        · intro p hp
          simpa using h [] s rest rfl p hp
        · rintro before t after rfl p hp
          rcases h (s :: before) t after rfl p hp with hmem | hmem
          · rcases List.mem_cons.1 hmem with rfl | hmem
            · exact .inr List.mem_cons_self
            · exact .inl hmem
          · exact .inr (List.mem_cons_of_mem _ hmem)

theorem respects_iff {order : List (Task α)} :
    Respects order ↔ RespectsFrom [] order := by
  rw [respectsFrom_iff]
  simp only [List.not_mem_nil, or_false]
  rfl

/-! ## Unknown prerequisites -/

/-- No prerequisite is unknown: what the tasks require is registered. -/
def Complete (a : Agenda α) : Prop :=
  ∀ t ∈ a.tasks, t.prerequisites ⊆ a.names

theorem find?_unknown_eq_none {a : Agenda α} {ps : List String} :
    ps.find? (fun p => !a.contains p) = none ↔ ps ⊆ a.names := by
  rw [List.find?_eq_none]
  refine forall₂_congr fun p _ => ?_
  rw [← contains_iff]
  simp

theorem firstUnknown_eq_none {a : Agenda α} :
    a.firstUnknown = none ↔ a.Complete := by
  rw [firstUnknown, List.findSome?_eq_none_iff]
  refine forall₂_congr fun t _ => ?_
  rw [Option.map_eq_none_iff, find?_unknown_eq_none]

/-- The first unknown prerequisite of the first task that has one. -/
theorem firstUnknown_eq_some {a : Agenda α} {name prerequisite : String}
    (h : a.firstUnknown = some (name, prerequisite)) :
    ∃ before t after earlier later,
      a.tasks = before ++ t :: after ∧ t.name = name ∧
      t.prerequisites = earlier ++ prerequisite :: later ∧
      (∀ s ∈ before, s.prerequisites ⊆ a.names) ∧
      earlier ⊆ a.names ∧ prerequisite ∉ a.names := by
  rw [firstUnknown, List.findSome?_eq_some_iff] at h
  obtain ⟨before, t, after, htasks, hfound, hnone⟩ := h
  rw [Option.map_eq_some_iff] at hfound
  obtain ⟨p, hp, hpair⟩ := hfound
  cases hpair
  rw [List.find?_eq_some_iff_append] at hp
  obtain ⟨hunknown, earlier, later, hsplit, hearlier⟩ := hp
  refine ⟨before, t, after, earlier, later, htasks, rfl, hsplit, ?_, ?_, ?_⟩
  · intro s hs
    have hs' := hnone s hs
    rw [Option.map_eq_none_iff, find?_unknown_eq_none] at hs'
    exact hs'
  · intro q hq
    have hq' := hearlier q hq
    exact contains_iff.1 (by simpa using hq')
  · intro hmem
    rw [contains_iff.2 hmem] at hunknown
    cases hunknown

/-! ## One round -/

/-- The task that is taken is ready, and what stands before it is not. -/
theorem takeReady_eq_some {done : List String} {waiting left : List (Task α)}
    {t : Task α} (h : takeReady done waiting = some (t, left)) :
    ∃ before after, waiting = before ++ t :: after ∧
      left = before ++ after ∧ t.prerequisites ⊆ done ∧
      ∀ s ∈ before, ¬ s.prerequisites ⊆ done := by
  induction waiting generalizing left with
  | nil => cases h
  | cons s rest ih =>
      rw [takeReady] at h
      split at h
      · next hready =>
          cases h
          exact ⟨[], rest, rfl, rfl, ready_iff.1 hready, by simp⟩
      · next hready =>
          rw [Option.map_eq_some_iff] at h
          obtain ⟨⟨u, left'⟩, htake, hpair⟩ := h
          cases hpair
          obtain ⟨before, after, rfl, rfl, hsub, hbefore⟩ := ih htake
          refine ⟨s :: before, after, rfl, rfl, hsub, ?_⟩
          rw [List.forall_mem_cons]
          exact ⟨ready_iff.not.1 hready, hbefore⟩

/-- The state between two rounds: the waiting tasks in the order of the
agenda, and every other name done. -/
structure Waiting (a : Agenda α) (done : List String)
    (waiting : List (Task α)) : Prop where
  sublist : waiting.Sublist a.tasks
  rest : ∀ x ∈ a.names, x ∈ done ∨ x ∈ waiting.map Task.name

theorem Waiting.start (a : Agenda α) : a.Waiting [] a.tasks where
  sublist := .refl _
  rest := fun _ hx => .inr hx

theorem Waiting.take {a : Agenda α} {done : List String}
    {before after : List (Task α)} {t : Task α}
    (h : a.Waiting done (before ++ t :: after)) :
    a.Waiting (t.name :: done) (before ++ after) where
  sublist :=
    ((List.sublist_cons_self t after).append_left before).trans h.sublist
  rest := by
    intro x hx
    rcases h.rest x hx with hdone | hwait
    · exact .inl (List.mem_cons_of_mem _ hdone)
    · rw [List.map_append, List.map_cons, List.mem_append, List.mem_cons] at hwait
      rw [List.map_append, List.mem_append, List.mem_cons]
      rcases hwait with hmem | rfl | hmem
      · exact .inr (.inl hmem)
      · exact .inl (.inl rfl)
      · exact .inr (.inr hmem)

/-- While tasks are waiting, one of them is ready: otherwise each waiting
name would have an edge to a waiting name. -/
theorem Waiting.exists_ready {a : Agenda α} (ha : a.Acyclic)
    (hc : a.Complete) {done : List String} {waiting : List (Task α)}
    (h : a.Waiting done waiting) (hne : waiting ≠ []) :
    ∃ t ∈ waiting, t.prerequisites ⊆ done := by
  by_contra hstuck
  push Not at hstuck
  let below (x y : {x // x ∈ a.names}) : Prop := TransGen a.Edge y x
  have : IsTrans _ below := ⟨fun _ _ _ hxy hyz => hyz.trans hxy⟩
  have : Std.Irrefl below := ⟨fun x => ha x⟩
  have hwf : WellFounded below := Finite.wellFounded_of_trans_of_irrefl below
  obtain ⟨s, rest, rfl⟩ := List.exists_cons_of_ne_nil hne
  have hs : s ∈ a.tasks := h.sublist.subset List.mem_cons_self
  obtain ⟨⟨x, hx⟩, hmin, hleast⟩ := hwf.has_min
    {x | x.1 ∈ (s :: rest).map Task.name}
    ⟨⟨s.name, name_mem_names hs⟩, List.mem_cons_self⟩
  obtain ⟨t, ht, rfl⟩ := List.mem_map.1 hmin
  have htask : t ∈ a.tasks := h.sublist.subset ht
  obtain ⟨p, hp, hnot⟩ : ∃ p ∈ t.prerequisites, p ∉ done := by
    by_contra hall
    push Not at hall
    exact hstuck t ht hall
  have hreg : p ∈ a.names := hc t htask hp
  have hwait := (h.rest p hreg).resolve_left hnot
  exact hleast ⟨p, hreg⟩ hwait (.single ⟨t, htask, rfl, hp⟩)

/-- A round with tasks waiting takes the first ready one. -/
theorem Waiting.arrange_succ {a : Agenda α} (ha : a.Acyclic)
    (hc : a.Complete) {done : List String} {waiting : List (Task α)}
    (h : a.Waiting done waiting) (hne : waiting ≠ []) (rounds : Nat) :
    ∃ before t after, waiting = before ++ t :: after ∧
      t.prerequisites ⊆ done ∧ (∀ s ∈ before, ¬ s.prerequisites ⊆ done) ∧
      arrange (rounds + 1) done waiting =
        (arrange rounds (t.name :: done) (before ++ after)).map (t :: ·) := by
  have hwait : ¬ waiting.isEmpty = true := by simpa using hne
  rw [arrange, if_neg hwait]
  cases htake : takeReady done waiting with
  | none =>
      obtain ⟨t, ht, hready⟩ := h.exists_ready ha hc hne
      exact absurd hready (takeReady_eq_none.1 htake t ht)
  | some r =>
      obtain ⟨t, left⟩ := r
      obtain ⟨before, after, hsplit, rfl, hready, hbefore⟩ :=
        takeReady_eq_some htake
      exact ⟨before, t, after, hsplit, hready, hbefore, rfl⟩

/-! ## All rounds -/

theorem arrange_nil (rounds : Nat) (done : List String) :
    arrange rounds done ([] : List (Task α)) = .ok [] := by
  cases rounds <;> rfl

/-- As many rounds as there are waiting tasks bring all of them into an
order that respects their prerequisites. -/
theorem arrange_respects {a : Agenda α} (ha : a.Acyclic) (hc : a.Complete) :
    ∀ {rounds : Nat} {done : List String} {waiting : List (Task α)},
      a.Waiting done waiting → waiting.length ≤ rounds →
      ∃ order, arrange rounds done waiting = .ok order ∧
        order.Perm waiting ∧ RespectsFrom done order := by
  intro rounds
  induction rounds with
  | zero =>
      intro done waiting _ hlen
      obtain rfl := List.length_eq_zero_iff.1 (Nat.le_zero.1 hlen)
      exact ⟨[], rfl, .refl _, trivial⟩
  | succ n ih =>
      intro done waiting h hlen
      by_cases hne : waiting = []
      · subst hne
        exact ⟨[], arrange_nil _ _, .refl _, trivial⟩
      · obtain ⟨before, t, after, rfl, hready, -, heq⟩ :=
          h.arrange_succ ha hc hne n
        have hlen' : (before ++ after).length ≤ n := by
          simp only [List.length_append, List.length_cons] at hlen ⊢
          omega
        obtain ⟨order, horder, hperm, hresp⟩ := ih h.take hlen'
        refine ⟨t :: order, by rw [heq, horder]; rfl, ?_, hready, hresp⟩
        exact (hperm.cons t).trans List.perm_middle.symm

/-- The places of waiting tasks rise. -/
theorem Waiting.places_lt {a : Agenda α} {done : List String}
    {before after : List (Task α)} {t : Task α}
    (h : a.Waiting done (before ++ t :: after)) :
    ∀ s ∈ after, a.place t < a.place s := by
  have hall : a.tasks.Pairwise fun s t => a.place s < a.place t := by
    rw [List.pairwise_iff_getElem]
    intro i j hi hj hij
    have hplace : ∀ (k : Nat) (hk : k < a.tasks.length),
        a.place a.tasks[k] = k := by
      intro k hk
      have hk' : k < a.names.length := by rw [names, List.length_map]; exact hk
      have hget : a.names[k] = a.tasks[k].name := List.getElem_map _
      rw [place, ← hget]
      exact a.names_nodup.idxOf_getElem k hk'
    rw [hplace i hi, hplace j hj]
    exact hij
  have hpair := hall.sublist h.sublist
  rw [List.pairwise_append, List.pairwise_cons] at hpair
  exact hpair.2.1.1

/-- No order of the waiting tasks that respects their prerequisites comes
before the one that is arranged. -/
theorem arrange_least {a : Agenda α} (ha : a.Acyclic) (hc : a.Complete) :
    ∀ {rounds : Nat} {done : List String} {waiting order : List (Task α)},
      a.Waiting done waiting → waiting.length ≤ rounds →
      arrange rounds done waiting = .ok order →
      ∀ other : List (Task α), other.Perm waiting →
        RespectsFrom done other → ¬ a.Precedes other order := by
  intro rounds
  induction rounds with
  | zero =>
      intro done waiting order _ hlen h other _ _
      obtain rfl := List.length_eq_zero_iff.1 (Nat.le_zero.1 hlen)
      cases h
      exact not_precedes_nil a other
  | succ n ih =>
      intro done waiting order hw hlen h other hperm hresp
      by_cases hne : waiting = []
      · subst hne
        rw [arrange_nil] at h
        cases h
        exact not_precedes_nil a other
      · obtain ⟨before, t, after, rfl, hready, hbefore, heq⟩ :=
          hw.arrange_succ ha hc hne n
        have hlen' : (before ++ after).length ≤ n := by
          simp only [List.length_append, List.length_cons] at hlen ⊢
          omega
        obtain ⟨tail, htail, -, -⟩ := arrange_respects ha hc hw.take hlen'
        rw [heq, htail] at h
        cases h
        cases other with
        | nil => exact absurd hperm.symm.eq_nil hne
        | cons u others =>
            obtain ⟨hu, hothers⟩ := hresp
            rw [precedes_cons]
            -- the other order starts with a ready task, and the first of
            -- these is the one that was taken
            have hmem : u ∈ before ++ t :: after :=
              hperm.subset List.mem_cons_self
            rcases List.mem_append.1 hmem with hearly | hlate
            · exact absurd hu (hbefore u hearly)
            · rcases List.mem_cons.1 hlate with rfl | hlater
              · rintro (hlt | ⟨-, hprec⟩)
                · exact absurd hlt (Nat.lt_irrefl _)
                · refine ih hw.take hlen' htail others ?_ hothers hprec
                  exact (hperm.trans List.perm_middle).cons_inv
              · have hlt := hw.places_lt u hlater
                rintro (hlt' | ⟨heq', -⟩) <;> omega

/-! ## The schedule -/

theorem schedule_of_complete {a : Agenda α} (ha : a.Acyclic)
    (hc : a.Complete) :
    ∃ order, a.schedule = .ok order ∧ order.Perm a.tasks ∧ Respects order ∧
      ∀ other : List (Task α), other.Perm a.tasks → Respects other →
        ¬ a.Precedes other order := by
  have hs : a.schedule = arrange a.size [] a.tasks := by
    rw [schedule_eq, firstUnknown_eq_none.2 hc]
  have hw := Waiting.start a
  obtain ⟨order, horder, hperm, hresp⟩ :=
    arrange_respects ha hc hw (Nat.le_refl a.size)
  refine ⟨order, hs.trans horder, hperm, respects_iff.2 hresp, ?_⟩
  intro other hother hvalid
  exact arrange_least ha hc hw (Nat.le_refl a.size) horder other hother
    (respects_iff.1 hvalid)

/-- For every agenda that offers lead to: the schedule fails exactly if a
task requires a name that is not registered, and the report is then the first
such name of the first such task, never a cycle. Otherwise it holds every
task once, each after its prerequisites, and of all such orders it is the
least in the places of the tasks. -/
theorem schedule_decides (offers : List (Task α)) :
    let a := ofOffers offers
    ((∃ name prerequisite,
        a.schedule = .error (.unknown name prerequisite)) ↔
      ∃ t ∈ a.tasks, ∃ p ∈ t.prerequisites, p ∉ a.names) ∧
    (∀ e, a.schedule = .error e →
      ∃ before t after earlier p later,
        e = .unknown t.name p ∧ a.tasks = before ++ t :: after ∧
        t.prerequisites = earlier ++ p :: later ∧
        (∀ s ∈ before, s.prerequisites ⊆ a.names) ∧
        earlier ⊆ a.names ∧ p ∉ a.names) ∧
    (∀ names, a.schedule ≠ .error (.cycle names)) ∧
    (∀ order, a.schedule = .ok order →
      order.Perm a.tasks ∧ Respects order ∧
      ∀ other : List (Task α), other.Perm a.tasks → Respects other →
        ¬ a.Precedes other order) := by
  intro a
  have ha : a.Acyclic := acyclic_ofOffers offers
  cases hu : a.firstUnknown with
  | none =>
      have hc := firstUnknown_eq_none.1 hu
      obtain ⟨order, horder, hspec⟩ := schedule_of_complete ha hc
      rw [horder]
      refine ⟨⟨?_, ?_⟩, ?_, ?_, ?_⟩
      · rintro ⟨name, prerequisite, h⟩
        cases h
      · rintro ⟨t, ht, p, hp, hnot⟩
        exact absurd (hc t ht hp) hnot
      · intro e h
        cases h
      · intro names h
        cases h
      · intro order' h
        cases h
        exact hspec
  | some found =>
      obtain ⟨name, prerequisite⟩ := found
      have hs : a.schedule = .error (.unknown name prerequisite) := by
        rw [schedule_eq, hu]
      obtain ⟨before, t, after, earlier, later, htasks, rfl, hsplit, hbefore,
        hearlier, hnot⟩ := firstUnknown_eq_some hu
      rw [hs]
      refine ⟨⟨fun _ => ?_, fun _ => ⟨_, _, rfl⟩⟩, ?_, ?_, ?_⟩
      · exact ⟨t, by simp [htasks], prerequisite, by simp [hsplit], hnot⟩
      · intro e h
        cases h
        exact ⟨before, t, after, earlier, prerequisite, later, rfl, htasks,
          hsplit, hbefore, hearlier, hnot⟩
      · intro names h
        cases h
      · intro order h
        cases h

end Agenda

end SchemaPipeline
