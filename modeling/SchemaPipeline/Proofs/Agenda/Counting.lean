import Mathlib.Data.List.Sort
import SchemaPipeline.Proofs.Agenda.Tally

/-!
# Counting what is still to come

`schedule` counts for each task the prerequisites that are still to come, and
never looks at a task again before its count has come down to nothing. To say
what comes out it is easier to look at all tasks again in every round and to
take the first one whose prerequisites are done, as `arrange` does. The two
agree on every agenda (`schedule_eq`).

The invariant of the loop is `Counted`, with the names that are done: each
count is the number of prerequisites that are not among them, and the places
that are ready are those of the waiting tasks with a count of nothing, in their
order. So a count never goes below nothing: a task that is let go because of a
name required that name, which was not done before.
-/

namespace SchemaPipeline

namespace Agenda

variable {α : Type}

/-! ## Looking again in every round -/

/-- The first of the waiting tasks whose prerequisites are all done, and the
tasks left. -/
def takeReady (done : List String) :
    List (Task α) → Option (Task α × List (Task α))
  | [] => none
  | t :: rest =>
    if t.prerequisites.all (· ∈ done) then some (t, rest)
    else (takeReady done rest).map fun (r, left) => (r, t :: left)

/-- The order of the waiting tasks, in as many rounds as there are tasks; the
tasks that never get ready are the error. -/
def arrange : Nat → List String → List (Task α) →
    Except AgendaError (List (Task α))
  | 0, _, waiting =>
    if waiting.isEmpty then .ok [] else .error (.cycle (waiting.map Task.name))
  | rounds + 1, done, waiting =>
    if waiting.isEmpty then .ok []
    else
      match takeReady done waiting with
      | none => .error (.cycle (waiting.map Task.name))
      | some (t, left) => (arrange rounds (t.name :: done) left).map (t :: ·)

/-! ## The queue -/

theorem mem_insertPlace {i place : Nat} : ∀ {ready : List Nat},
    i ∈ insertPlace place ready ↔ i = place ∨ i ∈ ready
  | [] => List.mem_cons
  | j :: rest => by
      rw [insertPlace]
      split
      · exact List.mem_cons
      · split
        · next heq =>
            subst heq
            simp
        · rw [List.mem_cons, mem_insertPlace, List.mem_cons, or_left_comm]

theorem pairwise_insertPlace {place : Nat} : ∀ {ready : List Nat},
    ready.Pairwise (· < ·) → (insertPlace place ready).Pairwise (· < ·)
  | [], _ => List.pairwise_singleton _ _
  | j :: rest, h => by
      obtain ⟨hfirst, hrest⟩ := List.pairwise_cons.1 h
      rw [insertPlace]
      split
      · next hlt =>
          refine List.pairwise_cons.2 ⟨fun i hi => ?_, h⟩
          rcases List.mem_cons.1 hi with rfl | hi
          · exact hlt
          · exact hlt.trans (hfirst i hi)
      · split
        · exact h
        · next hle hne =>
            refine List.pairwise_cons.2 ⟨fun i hi => ?_, pairwise_insertPlace hrest⟩
            rcases mem_insertPlace.1 hi with rfl | hi
            · omega
            · exact hfirst i hi

namespace Queue

def count (q : Queue) (i : Nat) : Nat := q.counts.getD i 0

variable {q : Queue} {place : Nat}

theorem count_release (hlt : place < q.counts.length) (i : Nat) :
    (q.release place).count i = q.count i - if place = i then 1 else 0 := by
  simp only [count, release, List.getD_eq_getElem?_getD, List.getElem?_set]
  by_cases hi : place = i
  · subst hi
    simp [hlt]
  · simp [hi]

theorem pairwise_release (h : q.ready.Pairwise (· < ·)) (place : Nat) :
    (q.release place).ready.Pairwise (· < ·) := by
  rw [release]
  dsimp only
  split
  · exact pairwise_insertPlace h
  · exact h

theorem mem_release {i : Nat} :
    i ∈ (q.release place).ready ↔
      i ∈ q.ready ∨ i = place ∧ q.count place ≤ 1 := by
  have hready : (q.release place).ready =
      if q.count place - 1 = 0 then insertPlace place q.ready else q.ready := rfl
  rw [← Nat.sub_eq_zero_iff_le, hready]
  split
  · next hzero => rw [mem_insertPlace, or_comm, and_iff_left hzero]
  · next hsome => rw [or_iff_left fun h => hsome h.2]

/-- Letting go tasks that are still held: each has a prerequisite less for each
time that it is let go, and is ready when none is left. -/
theorem foldl_release {n : Nat} (places : List Nat) {q : Queue}
    (hlen : q.counts.length = n) (hplaces : ∀ i ∈ places, i < n)
    (hsorted : q.ready.Pairwise (· < ·))
    (hheld : ∀ i, places.count i ≤ q.count i) :
    (places.foldl release q).counts.length = n ∧
      (∀ i, (places.foldl release q).count i = q.count i - places.count i) ∧
      (places.foldl release q).ready.Pairwise (· < ·) ∧
      ∀ i, i ∈ (places.foldl release q).ready ↔
        i ∈ q.ready ∨ (i ∈ places ∧ q.count i = places.count i) := by
  induction places generalizing q with
  | nil => exact ⟨hlen, fun i => rfl, hsorted, fun i => by simp⟩
  | cons place rest ih =>
      have hcount := count_release (hlen ▸ hplaces place List.mem_cons_self)
      have hrest : ∀ i, rest.count i + (if place = i then 1 else 0) ≤ q.count i := by
        intro i
        have hle := hheld i
        rw [List.count_cons] at hle
        simpa using hle
      obtain ⟨hlen', hcount', hpairwise, hmem⟩ :=
        ih (q := q.release place) (by simp [release, hlen])
          (fun i hi => hplaces i (List.mem_cons_of_mem _ hi))
          (pairwise_release hsorted place) fun i => by
            rw [hcount]
            have := hrest i
            omega
      refine ⟨hlen', fun i => ?_, hpairwise, fun i => ?_⟩
      · rw [List.foldl_cons, hcount', hcount, List.count_cons]
        simp only [beq_iff_eq]
        omega
      · rw [List.foldl_cons, hmem, hcount, mem_release, List.mem_cons,
          List.count_cons, or_assoc]
        refine or_congr_right ?_
        have hle := hrest i
        simp only [beq_iff_eq]
        by_cases hi : place = i
        · subst hi
          have hin : 0 < rest.count place ↔ place ∈ rest := List.count_pos_iff
          simp only [if_true, true_and, true_or] at hle ⊢
          rw [← hin]
          omega
        · simp [hi, Ne.symm hi]

end Queue

/-! ## The loop -/

/-- The tasks whose names are not among these. -/
def waiting (a : Agenda α) (done : List String) : List (Task α) :=
  a.tasks.filter (·.name ∉ done)

/-- The queue when these names are done. -/
structure Counted (a : Agenda α) (done : List String) (q : Queue) : Prop where
  wide : q.counts.length = a.size
  count : ∀ i t, a.tasks[i]? = some t →
    q.count i = t.prerequisites.countP (· ∉ done)
  sorted : q.ready.Pairwise (· < ·)
  ready : ∀ i, i ∈ q.ready ↔ ∃ t, a.tasks[i]? = some t ∧ t.name ∉ done ∧
    t.prerequisites ⊆ done
  settled : ∀ t ∈ a.tasks, t.name ∈ done → t.prerequisites ⊆ done

/-- A task is ready when all of its prerequisites are done. -/
theorem ready_iff {done : List String} {t : Task α} :
    t.prerequisites.all (· ∈ done) = true ↔ t.prerequisites ⊆ done := by
  rw [List.all_eq_true]
  exact forall₂_congr fun p _ => by simp

theorem takeReady_append {done : List String} {before : List (Task α)}
    {t : Task α} (hbefore : ∀ s ∈ before, ¬ s.prerequisites ⊆ done)
    (ht : t.prerequisites ⊆ done) (after : List (Task α)) :
    takeReady done (before ++ t :: after) = some (t, before ++ after) := by
  induction before with
  | nil => rw [List.nil_append, takeReady, if_pos (ready_iff.2 ht), List.nil_append]
  | cons s rest ih =>
      obtain ⟨hs, hrest⟩ := List.forall_mem_cons.1 hbefore
      rw [List.cons_append, takeReady, if_neg (ready_iff.not.2 hs), ih hrest]
      rfl

theorem takeReady_eq_none {done : List String} {waiting : List (Task α)} :
    takeReady done waiting = none ↔
      ∀ t ∈ waiting, ¬ t.prerequisites ⊆ done := by
  induction waiting with
  | nil => simp [takeReady]
  | cons t rest ih =>
      rw [takeReady, List.forall_mem_cons, ← ih]
      split
      · next hready => simp [ready_iff.1 hready]
      · next hready => simp [ready_iff.not.1 hready]

theorem mem_waiting {a : Agenda α} {done : List String} {t : Task α} :
    t ∈ a.waiting done ↔ t ∈ a.tasks ∧ t.name ∉ done := by
  simp [waiting]

section

variable {a : Agenda α} {done : List String} {q : Queue}

/-- Without a place that is ready no waiting task is. -/
theorem Counted.takeReady_eq_none (h : a.Counted done q) (hq : q.ready = []) :
    takeReady done (a.waiting done) = none := by
  rw [Agenda.takeReady_eq_none]
  intro t ht hready
  obtain ⟨htask, hnew⟩ := mem_waiting.1 ht
  obtain ⟨i, hi⟩ := List.getElem?_of_mem htask
  have hmem := (h.ready i).2 ⟨t, hi, hnew, hready⟩
  rw [hq] at hmem
  cases hmem

/-- A waiting task among the waiting ones, and those without it. -/
theorem waiting_split {before after : List (Task α)} {t : Task α}
    (hsplit : a.tasks = before ++ t :: after) (hnew : t.name ∉ done) :
    a.waiting done = before.filter (·.name ∉ done) ++
        t :: after.filter (·.name ∉ done) ∧
      a.waiting (t.name :: done) = before.filter (·.name ∉ done) ++
        after.filter (·.name ∉ done) := by
  have hnames := a.names_nodup
  rw [names, hsplit, List.map_append, List.map_cons, List.nodup_middle,
    List.nodup_cons, List.mem_append, not_or] at hnames
  obtain ⟨⟨hearly, hlate⟩, -⟩ := hnames
  have hother : ∀ s : Task α, s.name ≠ t.name →
      decide (s.name ∉ t.name :: done) = decide (s.name ∉ done) := by
    intro s hne
    simp [hne]
  rw [waiting, waiting, hsplit]
  constructor
  · rw [List.filter_append, List.filter_cons, if_pos (by simpa using hnew)]
  · rw [List.filter_append, List.filter_cons, if_neg (by simp)]
    congr 1
    · exact List.filter_congr fun s hs => hother s fun heq =>
        hearly (heq ▸ List.mem_map_of_mem hs)
    · exact List.filter_congr fun s hs => hother s fun heq =>
        hlate (heq ▸ List.mem_map_of_mem hs)

theorem length_waiting_cons {t : Task α} (ht : t ∈ a.tasks)
    (hnew : t.name ∉ done) :
    (a.waiting (t.name :: done)).length + 1 = (a.waiting done).length := by
  obtain ⟨before, after, hsplit⟩ := List.append_of_mem ht
  obtain ⟨hall, hleft⟩ := waiting_split hsplit hnew
  rw [hall, hleft, List.length_append, List.length_append, List.length_cons]
  omega

/-- The first place that is ready is that of the task which is taken. -/
theorem Counted.takeReady_eq_some (h : a.Counted done q) {place : Nat}
    {ready : List Nat} (hq : q.ready = place :: ready) :
    ∃ t, a.tasks[place]? = some t ∧ t.name ∉ done ∧ t.prerequisites ⊆ done ∧
      takeReady done (a.waiting done) =
        some (t, a.waiting (t.name :: done)) := by
  obtain ⟨t, ht, hnew, hready⟩ := (h.ready place).1 (hq ▸ List.mem_cons_self)
  refine ⟨t, ht, hnew, hready, ?_⟩
  have hsplit : a.tasks =
      a.tasks.take place ++ t :: a.tasks.drop (place + 1) := by
    obtain ⟨hlt, rfl⟩ := List.getElem?_eq_some_iff.1 ht
    rw [← List.drop_eq_getElem_cons hlt, List.take_append_drop]
  obtain ⟨hall, hleft⟩ := waiting_split hsplit hnew
  rw [hall, hleft]
  refine takeReady_append (fun s hs hsub => ?_) hready _
  -- a waiting task in an earlier place would be the first one that is ready
  obtain ⟨hmem, hwaiting⟩ := List.mem_filter.1 hs
  obtain ⟨i, hi⟩ := List.getElem?_of_mem hmem
  rw [List.getElem?_take] at hi
  split at hi
  · next hlt =>
      have hi' := (h.ready i).2 ⟨s, hi, by simpa using hwaiting, hsub⟩
      have hsorted := h.sorted
      rw [hq] at hi' hsorted
      rcases List.mem_cons.1 hi' with rfl | hlater
      · exact absurd hlt (Nat.lt_irrefl _)
      · exact absurd (List.rel_of_pairwise_cons hsorted hlater) (Nat.lt_asymm hlt)
  · cases hi

section

variable {dependents : List (List Nat)} {place i : Nat} {t u : Task α}

/-- What a task waits for, apart from the one that is taken. -/
theorem Counted.count_eq (h : a.Counted done q) (hd : a.Listed dependents)
    (ht : a.tasks[place]? = some t) (hnew : t.name ∉ done)
    (hu : a.tasks[i]? = some u) :
    q.count i = u.prerequisites.countP (· ∉ t.name :: done) +
      (dependents.getD place []).count i := by
  have hname : a.names[place]? = some t.name := by
    rw [names, List.getElem?_map, ht, Option.map_some]
  rw [h.count i u hu, hd.count place _ hname i u hu]
  exact countP_notMem_cons hnew _

theorem Counted.count_le (h : a.Counted done q) (hd : a.Listed dependents)
    (ht : a.tasks[place]? = some t) (hnew : t.name ∉ done) (i : Nat) :
    (dependents.getD place []).count i ≤ q.count i := by
  by_cases hi : i ∈ dependents.getD place []
  · have hlt : i < a.tasks.length := hd.lt place i hi
    rw [h.count_eq hd ht hnew (List.getElem?_eq_getElem hlt)]
    exact Nat.le_add_left ..
  · rw [List.count_eq_zero_of_not_mem hi]
    exact Nat.zero_le _

/-- Another task that is ready stays so. -/
theorem Counted.ready_other (h : a.Counted done q)
    (ht : a.tasks[place]? = some t) (hi : i ∈ q.ready) (hne : i ≠ place) :
    ∃ u, a.tasks[i]? = some u ∧ u.name ∉ t.name :: done ∧
      u.prerequisites ⊆ t.name :: done := by
  obtain ⟨u, hu, hunew, hsub⟩ := (h.ready i).1 hi
  refine ⟨u, hu, ?_, List.subset_cons_of_subset _ hsub⟩
  rw [List.mem_cons, not_or]
  refine ⟨fun hsame => hne ?_, hunew⟩
  exact Option.some.inj ((lookup_of_getElem? hu).symm.trans
    (hsame ▸ lookup_of_getElem? ht))

/-- A task that has waited for nothing but the one that is taken gets ready. -/
theorem Counted.ready_last (h : a.Counted done q) (hd : a.Listed dependents)
    (ht : a.tasks[place]? = some t) (hnew : t.name ∉ done)
    (hready : t.prerequisites ⊆ done) (hi : i ∈ dependents.getD place [])
    (hlast : q.count i = (dependents.getD place []).count i) :
    ∃ u, a.tasks[i]? = some u ∧ u.name ∉ t.name :: done ∧
      u.prerequisites ⊆ t.name :: done := by
  have hlt : i < a.tasks.length := hd.lt place i hi
  have hu := List.getElem?_eq_getElem hlt
  have hpos : 0 < (dependents.getD place []).count i := List.count_pos_iff.2 hi
  have hcount := h.count_eq hd ht hnew hu
  have hzero : a.tasks[i].prerequisites.countP (· ∉ t.name :: done) = 0 := by
    omega
  refine ⟨_, hu, ?_, countP_notMem_eq_zero.1 hzero⟩
  -- it still waits for the task that is taken
  have hwaits : ¬ a.tasks[i].prerequisites ⊆ done := by
    intro hsub
    have := h.count i _ hu
    rw [countP_notMem_eq_zero.2 hsub] at this
    omega
  rw [List.mem_cons, not_or]
  refine ⟨fun hsame => hwaits ?_, fun hdone => hwaits ?_⟩
  · rw [task_unique (List.getElem_mem hlt) (List.mem_of_getElem? ht) hsame]
    exact hready
  · exact h.settled _ (List.getElem_mem hlt) hdone

/-- No other task gets ready. -/
theorem Counted.ready_cases (h : a.Counted done q) (hd : a.Listed dependents)
    (ht : a.tasks[place]? = some t) (hnew : t.name ∉ done)
    (hu : a.tasks[i]? = some u) (hunew : u.name ∉ t.name :: done)
    (hsub : u.prerequisites ⊆ t.name :: done) :
    (i ∈ q.ready ∧ i ≠ place) ∨ (i ∈ dependents.getD place [] ∧
      q.count i = (dependents.getD place []).count i) := by
  rw [List.mem_cons, not_or] at hunew
  have hcount := h.count_eq hd ht hnew hu
  rw [countP_notMem_eq_zero.2 hsub, Nat.zero_add] at hcount
  by_cases hi : i ∈ dependents.getD place []
  · exact .inr ⟨hi, hcount⟩
  · rw [List.count_eq_zero_of_not_mem hi, h.count i u hu,
      countP_notMem_eq_zero] at hcount
    refine .inl ⟨(h.ready i).2 ⟨u, hu, hunew.2, hcount⟩, ?_⟩
    rintro rfl
    cases hu.symm.trans ht
    exact hunew.1 rfl

/-- A round of the loop, with the task that it takes. -/
theorem Counted.round (h : a.Counted done q) (hd : a.Listed dependents)
    {ready : List Nat} (hq : q.ready = place :: ready)
    (ht : a.tasks[place]? = some t) (hnew : t.name ∉ done)
    (hready : t.prerequisites ⊆ done) :
    a.Counted (t.name :: done)
      ((dependents.getD place []).foldl Queue.release ⟨q.counts, ready⟩) := by
  have hsorted := h.sorted
  rw [hq, List.pairwise_cons] at hsorted
  have hrest : ∀ {i}, i ∈ ready ↔ i ∈ q.ready ∧ i ≠ place := by
    intro i
    rw [hq, List.mem_cons]
    constructor
    · exact fun hi => ⟨.inr hi, (hsorted.1 i hi).ne'⟩
    · exact fun hi => hi.1.resolve_left hi.2
  obtain ⟨hlen, hcount, hpairwise, hmem⟩ :=
    Queue.foldl_release (q := ⟨q.counts, ready⟩) (dependents.getD place [])
      h.wide (hd.lt place) hsorted.2 (h.count_le hd ht hnew)
  refine ⟨hlen, fun i u hu => ?_, hpairwise, fun i => ?_, fun u hu hmem => ?_⟩
  · rw [hcount]
    exact Nat.sub_eq_of_eq_add (h.count_eq hd ht hnew hu)
  · rw [hmem]
    constructor
    · rintro (hold | ⟨hi, hlast⟩)
      · obtain ⟨hold, hne⟩ := hrest.1 hold
        exact h.ready_other ht hold hne
      · exact h.ready_last hd ht hnew hready hi hlast
    · rintro ⟨u, hu, hunew, hsub⟩
      exact (h.ready_cases hd ht hnew hu hunew hsub).imp_left hrest.2
  · rcases List.mem_cons.1 hmem with hsame | hdone
    · rw [task_unique hu (List.mem_of_getElem? ht) hsame]
      exact List.subset_cons_of_subset _ hready
    · exact List.subset_cons_of_subset _ (h.settled u hu hdone)

end

/-- All rounds of the loop beside those in which all waiting tasks are looked
at. What is left in the end are tasks that never got ready. -/
theorem Counted.drain {dependents : List (List Nat)} (hd : a.Listed dependents) :
    ∀ {rounds : Nat} {done : List String} {q : Queue}, a.Counted done q →
      (a.waiting done).length ≤ rounds →
      ∃ order q' done', Agenda.drain dependents rounds q = (order, q') ∧
        a.Counted done' q' ∧ q'.ready = [] ∧
        order.length + (a.waiting done').length = (a.waiting done).length ∧
        arrange rounds done (a.waiting done) =
          if (a.waiting done').isEmpty then .ok (order.filterMap (a.tasks[·]?))
          else .error (.cycle ((a.waiting done').map Task.name)) := by
  intro rounds
  induction rounds with
  | zero =>
      intro done q h hlen
      have hnil := List.length_eq_zero_iff.1 (Nat.le_zero.1 hlen)
      have hready : q.ready = [] := by
        cases hq : q.ready with
        | nil => rfl
        | cons place ready =>
            obtain ⟨t, ht, hnew, -, -⟩ := h.takeReady_eq_some hq
            have hmem := mem_waiting.2 ⟨List.mem_of_getElem? ht, hnew⟩
            rw [hnil] at hmem
            cases hmem
      refine ⟨[], q, done, rfl, h, hready, by simp, ?_⟩
      rw [hnil]
      rfl
  | succ n ih =>
      intro done q h hlen
      cases hq : q.ready with
      | nil =>
          refine ⟨[], q, done, by rw [Agenda.drain, hq], h, hq, by simp, ?_⟩
          rw [arrange, h.takeReady_eq_none hq]
          rfl
      | cons place ready =>
          obtain ⟨t, ht, hnew, hready, htake⟩ := h.takeReady_eq_some hq
          have hround := h.round hd hq ht hnew hready
          have htask := List.mem_of_getElem? ht
          have hshorter := length_waiting_cons htask hnew
          obtain ⟨order, q', done', hdrain, hcounted, hq', hlength, harrange⟩ :=
            ih hround (by omega)
          have hne : ¬ (a.waiting done).isEmpty = true := by
            rw [List.isEmpty_iff]
            exact List.ne_nil_of_mem (mem_waiting.2 ⟨htask, hnew⟩)
          refine ⟨place :: order, q', done', ?_, hcounted, hq', ?_, ?_⟩
          · rw [Agenda.drain, hq]
            dsimp only
            rw [hdrain]
          · rw [List.length_cons]
            omega
          · rw [arrange, if_neg hne, htake]
            dsimp only
            rw [harrange, List.filterMap_cons, ht]
            split <;> rfl

/-- The queue of a complete agenda before anything is done. -/
theorem counted_start {t : Tally} (hwide : t.Wide a.size)
    (hcount : ∀ i u, a.tasks[i]? = some u → t.count i = u.prerequisites.length) :
    a.Counted [] ⟨t.counts, idle t.counts⟩ where
  wide := hwide.counts
  count i u hu := by
    show t.count i = _
    rw [hcount i u hu]
    simp
  sorted := by
    have hplaces : (t.counts.zipIdx.map Prod.snd).Pairwise (· < ·) := by
      rw [List.zipIdx_map_snd]
      exact List.pairwise_lt_range'
    exact hplaces.sublist (List.filter_sublist.map _)
  ready i := by
    have hidle : i ∈ idle t.counts ↔ t.counts[i]? = some 0 := by
      simp [idle, List.mk_mem_zipIdx_iff_getElem?]
    rw [hidle]
    constructor
    · intro hzero
      have hlt : i < a.tasks.length := by
        have := (List.getElem?_eq_some_iff.1 hzero).1
        rwa [hwide.counts] at this
      have hu := List.getElem?_eq_getElem hlt
      have hlen := hcount i _ hu
      rw [Tally.count, List.getD_eq_getElem?_getD, hzero, Option.getD_some] at hlen
      refine ⟨_, hu, List.not_mem_nil, ?_⟩
      rw [List.length_eq_zero_iff.1 hlen.symm]
      exact List.nil_subset _
    · rintro ⟨u, hu, -, hsub⟩
      have hlt : i < t.counts.length := by
        rw [hwide.counts]
        exact (List.getElem?_eq_some_iff.1 hu).1
      have hlen := hcount i u hu
      rw [List.subset_nil.1 hsub, Tally.count, List.getD_eq_getElem?_getD,
        List.getElem?_eq_getElem hlt] at hlen
      rw [List.getElem?_eq_getElem hlt]
      exact congrArg some hlen
  settled u _ hmem := by cases hmem

theorem waiting_nil (a : Agenda α) : a.waiting [] = a.tasks := by
  simp [waiting]

/-- The tasks that have prerequisites to come in the end are those that never
got ready. -/
theorem Counted.stuck (h : a.Counted done q) (hq : q.ready = []) :
    (a.tasks.zip q.counts |>.filter (0 < ·.2)).map (fun e => e.1.name) =
      (a.waiting done).map Task.name := by
  have hcounts : a.tasks.zip q.counts =
      a.tasks.map fun t => (t, t.prerequisites.countP (· ∉ done)) := by
    refine List.ext_getElem (by simp [h.wide, size]) fun i hi hi' => ?_
    have hlt : i < a.tasks.length := by simpa using hi'
    have hlt' : i < q.counts.length := by rwa [h.wide]
    have hcount := h.count i _ (List.getElem?_eq_getElem hlt)
    rw [Queue.count, List.getD_eq_getElem?_getD,
      List.getElem?_eq_getElem hlt', Option.getD_some] at hcount
    rw [List.getElem_zip, List.getElem_map, hcount]
  rw [hcounts, List.filter_map, List.map_map, waiting]
  refine congrArg (List.map Task.name) (List.filter_congr fun t ht => ?_)
  obtain ⟨i, hi⟩ := List.getElem?_of_mem ht
  rw [Function.comp_apply, decide_eq_decide, Nat.pos_iff_ne_zero, ne_eq,
    countP_notMem_eq_zero]
  refine not_congr ⟨fun hsub => ?_, h.settled t ht⟩
  by_contra hnew
  have hmem := (h.ready i).2 ⟨t, hi, hnew, hsub⟩
  rw [hq] at hmem
  cases hmem

/-- The loop comes to what looking again in every round comes to. -/
theorem schedule_eq (a : Agenda α) :
    a.schedule =
      match a.firstUnknown with
      | some (task, prerequisite) => .error (.unknown task prerequisite)
      | none => arrange a.size [] a.tasks := by
  cases hunknown : a.firstUnknown with
  | some found => rw [schedule, tally_unknown hunknown]
  | none =>
      obtain ⟨t, htally, hwide, hcount, hlisted⟩ := tally_known hunknown
      have hlen : (a.waiting []).length ≤ a.size := by
        rw [waiting_nil]
        exact Nat.le_refl _
      obtain ⟨order, q, done, hdrain, hcounted, hq, hlength, harrange⟩ :=
        (counted_start hwide hcount).drain hlisted hlen
      rw [waiting_nil] at hlength harrange
      rw [schedule, htally]
      dsimp only
      rw [hdrain, harrange]
      dsimp only
      rw [hcounted.stuck hq]
      have hleft : order.length < a.size ↔ ¬ (a.waiting done).isEmpty = true := by
        rw [List.isEmpty_iff, ← List.length_eq_zero_iff, size]
        omega
      by_cases hempty : (a.waiting done).isEmpty = true
      · rw [if_neg (hleft.not.2 (not_not.2 hempty)), if_pos hempty]
      · rw [if_pos (hleft.2 hempty), if_neg hempty]

end

end Agenda

end SchemaPipeline
