import SchemaPipeline.Proofs.Agenda.Order

/-!
# Agendas and the order of registration

Tasks are added one by one, and each answer looks at the tasks that are there
already. A cycle through several tasks is therefore noticed by whichever of
them comes last, and a task that requires a later one is admitted on trust. In
the end none of this depends on the order. `admitAll_iff_acyclic` says what it
does depend on: the new names are distinct, and the graph of all tasks together
has no cycle. The induction is on the tasks that are still to come, and the
agenda before them is any without cycles.

Whether there is a schedule is a question about the tasks and the names of the
agenda, and of these another order gives a permutation.
-/

namespace SchemaPipeline

namespace Agenda

open Relation (TransGen)

variable {α : Type}

/-- The agenda after tasks were added one by one, if each of them is
admitted. -/
def admitAll (a : Agenda α) (tasks : List (Task α)) :
    Except AgendaError (Agenda α) :=
  tasks.foldlM (fun a t => a.add t.name t.item t.prerequisites) a

/-- A task as it is registered. -/
def registered (t : Task α) : Task α :=
  { t with prerequisites := dedup t.prerequisites }

/-! ## One task more -/

/-- What a task is answered is what it is registered with. -/
theorem add_eq_ok {a b : Agenda α} {name : String} {item : α}
    {prerequisites : List String} :
    a.add name item prerequisites = .ok b ↔
      a.register name item prerequisites = (.ok (), b) := by
  rw [add]
  split
  · next c heq => rw [heq, Except.ok.injEq, Prod.mk.injEq, eq_self_iff_true, true_and]
  · next e c heq => rw [heq]; exact iff_of_false nofun nofun

/-- A task joins the same names before and after it is registered. -/
theorem joins_registered (before rest : List (Task α)) (t : Task α) :
    Joins (before ++ [registered t] ++ rest) = Joins (before ++ t :: rest) := by
  funext x y
  rw [List.append_assoc, List.singleton_append, eq_iff_iff, joins_append,
    joins_append, joins_cons, joins_cons, registered, mem_dedup]

theorem joins_of_edgeWith {a : Agenda α} {t : Task α} (rest : List (Task α))
    {x y : String} (h : a.EdgeWith t.name t.prerequisites x y) :
    Joins (a.tasks ++ t :: rest) x y := by
  rw [joins_append, joins_cons]
  rcases h with hold | ⟨rfl, hy⟩
  · exact .inl hold
  · exact .inr (.inl ⟨rfl, hy⟩)

/-! ## All tasks -/

theorem admitAll_cons_ok {a b : Agenda α} {t : Task α} {rest : List (Task α)}
    (h : a.register t.name t.item t.prerequisites = (.ok (), b)) :
    a.admitAll (t :: rest) = b.admitAll rest := by
  rw [admitAll, List.foldlM_cons, add_eq_ok.2 h]
  rfl

theorem admitAll_cons_error {a b : Agenda α} {t : Task α}
    {rest : List (Task α)} {e : AgendaError}
    (h : a.register t.name t.item t.prerequisites = (.error e, b)) :
    a.admitAll (t :: rest) = .error e := by
  rw [admitAll, List.foldlM_cons, add, h]
  rfl

/-- Distinct new names are all admitted exactly if the graph of all tasks has no
cycle. -/
theorem admitAll_iff_acyclic (tasks : List (Task α)) {a : Agenda α}
    (ha : a.Acyclic) (hnames : (a.names ++ tasks.map Task.name).Nodup) :
    (∃ b, a.admitAll tasks = .ok b) ↔
      ∀ x, ¬ TransGen (Joins (a.tasks ++ tasks)) x x := by
  induction tasks generalizing a with
  | nil =>
      rw [List.append_nil]
      exact iff_of_true ⟨a, rfl⟩ ha
  | cons t rest ih =>
      have hnew : t.name ∉ a.names := fun hold =>
        (List.nodup_append.1 hnames).2.2 t.name hold t.name List.mem_cons_self rfl
      rcases a.register_cases t.name t.item t.prerequisites with
        ⟨hold, -⟩ | ⟨-, path, hback, hanswer⟩ | ⟨hfresh, -, hanswer⟩
      · exact absurd hold hnew
      · rw [admitAll_cons_error hanswer]
        obtain ⟨x, hx⟩ := (pathBack_iff_cycle ha).1 ⟨path, hback⟩
        refine iff_of_false nofun fun hacyclic => hacyclic x ?_
        exact TransGen.mono (fun _ _ => joins_of_edgeWith rest) _ _ hx
      · have hac := acyclic_offer ha t
        rw [offer, hanswer] at hac
        rw [admitAll_cons_ok hanswer, ih hac, ← joins_registered]
        · rfl
        · rw [names, push, List.map_append, List.append_assoc]
          exact hnames

/-- What is admitted is registered in the order in which it came. -/
theorem tasks_of_admitAll {tasks : List (Task α)} {a b : Agenda α}
    (h : a.admitAll tasks = .ok b) :
    b.tasks = a.tasks ++ tasks.map registered := by
  induction tasks generalizing a with
  | nil =>
      cases h
      exact (List.append_nil _).symm
  | cons t rest ih =>
      rcases a.register_cases t.name t.item t.prerequisites with
        ⟨-, hanswer⟩ | ⟨-, path, -, hanswer⟩ | ⟨hfresh, -, hanswer⟩
      · rw [admitAll_cons_error hanswer] at h
        cases h
      · rw [admitAll_cons_error hanswer] at h
        cases h
      · rw [admitAll_cons_ok hanswer] at h
        rw [ih h, push, List.append_assoc]
        rfl

theorem acyclic_of_admitAll {tasks : List (Task α)} {a b : Agenda α}
    (ha : a.Acyclic) (h : a.admitAll tasks = .ok b) : b.Acyclic := by
  induction tasks generalizing a with
  | nil =>
      cases h
      exact ha
  | cons t rest ih =>
      have hac := acyclic_offer ha t
      rw [offer] at hac
      cases hanswer : a.register t.name t.item t.prerequisites with
      | mk answer c =>
          rw [hanswer] at hac
          cases answer with
          | error e =>
              rw [admitAll_cons_error hanswer] at h
              cases h
          | ok _ =>
              rw [admitAll_cons_ok hanswer] at h
              exact ih hac h

/-! ## Another order -/

theorem joins_of_perm {xs ys : List (Task α)} (h : xs.Perm ys) :
    Joins xs = Joins ys := by
  funext x y
  simp only [Joins, h.mem_iff]

theorem complete_of_perm {a b : Agenda α} (h : a.tasks.Perm b.tasks)
    (ha : a.Complete) : b.Complete := by
  intro t ht p hp
  have hname : p ∈ a.names := ha t (h.mem_iff.2 ht) hp
  exact (h.map Task.name).mem_iff.1 hname

theorem schedule_of_not_complete {a : Agenda α} (h : ¬ a.Complete) :
    ∃ name prerequisite, a.schedule = .error (.unknown name prerequisite) := by
  cases hunknown : a.firstUnknown with
  | none => exact absurd (firstUnknown_eq_none.1 hunknown) h
  | some found =>
      obtain ⟨name, prerequisite⟩ := found
      exact ⟨name, prerequisite, by rw [schedule_eq, hunknown]⟩

/-- Tasks with distinct names are all admitted in one order exactly if they are
in any other, which is if they have no cycle. Then there is a schedule for both
orders, of the same tasks, or there is none for either because of an unknown
prerequisite. -/
theorem admission_order_free {first second : List (Task α)}
    (hnames : (first.map Task.name).Nodup) (hperm : first.Perm second) :
    ((∃ a, empty.admitAll first = .ok a) ↔
      ∃ b, empty.admitAll second = .ok b) ∧
    ((∃ a, empty.admitAll first = .ok a) ↔
      ∀ x, ¬ TransGen (Joins first) x x) ∧
    ∀ a b, empty.admitAll first = .ok a → empty.admitAll second = .ok b →
      (∃ order order', a.schedule = .ok order ∧ b.schedule = .ok order' ∧
        order.Perm order') ∨
      ((∃ name prerequisite,
          a.schedule = .error (.unknown name prerequisite)) ∧
        ∃ name prerequisite,
          b.schedule = .error (.unknown name prerequisite)) := by
  have hfirst := admitAll_iff_acyclic first acyclic_empty hnames
  have hsecond := admitAll_iff_acyclic second acyclic_empty
    ((hperm.map Task.name).nodup_iff.1 hnames)
  refine ⟨?_, hfirst, fun a b ha hb => ?_⟩
  · rw [hfirst, hsecond]
    simp only [empty, List.nil_append, joins_of_perm hperm]
  have htasks : a.tasks.Perm b.tasks := by
    rw [tasks_of_admitAll ha, tasks_of_admitAll hb]
    exact (hperm.map registered).append_left _
  by_cases hcomplete : a.Complete
  · obtain ⟨order, horder, hall, -⟩ :=
      schedule_of_complete (acyclic_of_admitAll acyclic_empty ha) hcomplete
    obtain ⟨order', horder', hall', -⟩ :=
      schedule_of_complete (acyclic_of_admitAll acyclic_empty hb)
        (complete_of_perm htasks hcomplete)
    exact .inl ⟨order, order', horder, horder',
      hall.trans (htasks.trans hall'.symm)⟩
  · exact .inr ⟨schedule_of_not_complete hcomplete,
      schedule_of_not_complete fun h =>
        hcomplete (complete_of_perm htasks.symm h)⟩

/-- Three tasks that require each other in a circle are refused in both orders,
by the last one here and by the last one there. Without one of the edges they
are admitted in both, though each order has a task that requires a later one. -/
theorem admission_order_free_circle :
    let a : Task Nat := ⟨"a", 0, ["b"]⟩
    let b : Task Nat := ⟨"b", 1, ["c"]⟩
    let c : Task Nat := ⟨"c", 2, ["a"]⟩
    let d : Task Nat := ⟨"c", 2, []⟩
    ((¬ ∃ s, empty.admitAll [a, b, c] = .ok s) ∧
      ¬ ∃ s, empty.admitAll [c, a, b] = .ok s) ∧
    ∃ s t order order', empty.admitAll [a, b, d] = .ok s ∧
      empty.admitAll [d, a, b] = .ok t ∧ s.schedule = .ok order ∧
      t.schedule = .ok order' ∧ order.Perm order' := by
  intro a b c d
  have hrotate (x y z : Task Nat) : ([x, y] ++ [z]).Perm ([z] ++ [x, y]) :=
    List.perm_append_comm
  refine ⟨?_, ?_⟩
  · have hrefused : ¬ ∃ s, empty.admitAll [a, b, c] = .ok s := by
      rintro ⟨s, hs⟩
      cases hs
    have hfree := admission_order_free (by decide) (hrotate a b c)
    exact ⟨hrefused, fun h => hrefused (hfree.1.2 h)⟩
  · have hfree := admission_order_free (by decide) (hrotate a b d)
    obtain ⟨s, planned, hfirst, hplanned⟩ : ∃ s order,
        empty.admitAll [a, b, d] = .ok s ∧ s.schedule = .ok order :=
      ⟨_, _, rfl, rfl⟩
    obtain ⟨t, ht⟩ := hfree.1.1 ⟨s, hfirst⟩
    rcases hfree.2.2 _ t hfirst ht with
      ⟨order, order', hs⟩ | ⟨⟨name, prerequisite, hs⟩, -⟩
    · exact ⟨_, t, order, order', hfirst, ht, hs⟩
    · cases hplanned.symm.trans hs

end Agenda

end SchemaPipeline
