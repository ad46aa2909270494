import Mathlib.Data.List.Nodup
import Mathlib.Logic.Relation
import SchemaPipeline.Agenda

/-!
# Agendas as graphs

Tasks are read as a graph on names: each task has an edge to each of its
prerequisites, registered or not. What the library promises of an agenda is
said about this graph. Its names are distinct, as the index shows, so a
look-up finds the only task of its name; and it has no cycle, as the search
of `register` sees to.

An agenda comes about by offering tasks to the empty one. A task that is
refused leaves no trace, so an agenda is described by the offers alone, and
every statement over all agendas of `ofOffers` is one over all histories.
-/

namespace SchemaPipeline

namespace Agenda

open Relation (TransGen ReflTransGen)

variable {α : Type}

/-- A task of the first name has the second name among its prerequisites. -/
def Joins (tasks : List (Task α)) (x y : String) : Prop :=
  ∃ t ∈ tasks, t.name = x ∧ y ∈ t.prerequisites

/-- The edges of the registered tasks. -/
def Edge (a : Agenda α) : String → String → Prop := Joins a.tasks

/-- The edges of an agenda and those that one more task would bring. -/
def EdgeWith (a : Agenda α) (name : String) (prerequisites : List String)
    (x y : String) : Prop :=
  a.Edge x y ∨ (x = name ∧ y ∈ prerequisites)

def Acyclic (a : Agenda α) : Prop := ∀ x, ¬ TransGen a.Edge x x

/-- The agenda after a task was offered to it. -/
def offer (a : Agenda α) (t : Task α) : Agenda α :=
  (a.register t.name t.item t.prerequisites).2

/-- The agenda that a history of offers leads to. -/
def ofOffers (offers : List (Task α)) : Agenda α := offers.foldl offer empty

/-! ## Names -/

theorem mem_names {a : Agenda α} {x : String} :
    x ∈ a.names ↔ ∃ t ∈ a.tasks, t.name = x := List.mem_map

theorem name_mem_names {a : Agenda α} {t : Task α} (ht : t ∈ a.tasks) :
    t.name ∈ a.names := mem_names.2 ⟨t, ht, rfl⟩

/-- No name stands in two places, as the index leads to one. -/
theorem names_nodup (a : Agenda α) : a.names.Nodup := by
  rw [List.Nodup, List.pairwise_iff_getElem]
  intro i j hi hj hij heq
  have hi' := (a.indexed a.names[i] i).2 (List.getElem?_eq_getElem hi)
  have hj' := (a.indexed a.names[i] j).2 (heq ▸ List.getElem?_eq_getElem hj)
  have := Option.some.inj (hi'.symm.trans hj')
  omega

/-- Distinct names make a task the only one of its name. -/
theorem task_unique {a : Agenda α} {s t : Task α} (hs : s ∈ a.tasks)
    (ht : t ∈ a.tasks) (heq : s.name = t.name) : s = t :=
  List.inj_on_of_nodup_map a.names_nodup hs ht heq

theorem lookup_eq_some_iff {a : Agenda α} {x : String} {i : Nat} :
    a.index.lookup x = some i ↔ ∃ t, a.tasks[i]? = some t ∧ t.name = x := by
  rw [a.indexed, List.getElem?_map, Option.map_eq_some_iff]

theorem lookup_of_getElem? {a : Agenda α} {i : Nat} {t : Task α}
    (h : a.tasks[i]? = some t) : a.index.lookup t.name = some i :=
  lookup_eq_some_iff.2 ⟨t, h, rfl⟩

theorem find?_eq_some {a : Agenda α} {x : String} {t : Task α} :
    a.find? x = some t ↔ t ∈ a.tasks ∧ t.name = x := by
  rw [find?, Option.bind_eq_some_iff]
  constructor
  · rintro ⟨i, hi, ht⟩
    obtain ⟨s, hs, hname⟩ := lookup_eq_some_iff.1 hi
    obtain rfl : s = t := Option.some.inj (hs.symm.trans ht)
    exact ⟨List.mem_of_getElem? ht, hname⟩
  · rintro ⟨ht, rfl⟩
    obtain ⟨i, hi⟩ := List.getElem?_of_mem ht
    exact ⟨i, lookup_of_getElem? hi, hi⟩

theorem find?_eq_none {a : Agenda α} {x : String} :
    a.find? x = none ↔ x ∉ a.names := by
  rw [Option.eq_none_iff_forall_ne_some, mem_names]
  constructor
  · rintro h ⟨t, ht⟩
    exact h t (find?_eq_some.2 ht)
  · intro h t ht
    exact h ⟨t, find?_eq_some.1 ht⟩

/-! ## Edges -/

theorem name_mem_of_edge {a : Agenda α} {x y : String} (h : a.Edge x y) :
    x ∈ a.names := by
  obtain ⟨t, ht, rfl, -⟩ := h
  exact name_mem_names ht

theorem edge_of_find? {a : Agenda α} {x y : String} {t : Task α}
    (h : a.find? x = some t) (hy : y ∈ t.prerequisites) : a.Edge x y := by
  obtain ⟨ht, hname⟩ := find?_eq_some.1 h
  exact ⟨t, ht, hname, hy⟩

theorem edge_iff_of_find? {a : Agenda α} {x y : String} {t : Task α}
    (h : a.find? x = some t) : a.Edge x y ↔ y ∈ t.prerequisites := by
  refine ⟨fun hedge => ?_, edge_of_find? h⟩
  obtain ⟨s, hs, hname, hy⟩ := hedge
  obtain ⟨ht, rfl⟩ := find?_eq_some.1 h
  rw [← task_unique hs ht hname]
  exact hy

theorem joins_append {xs ys : List (Task α)} {x y : String} :
    Joins (xs ++ ys) x y ↔ Joins xs x y ∨ Joins ys x y := by
  simp only [Joins, List.mem_append, or_and_right, exists_or]

theorem joins_cons {t : Task α} {rest : List (Task α)} {x y : String} :
    Joins (t :: rest) x y ↔
      (t.name = x ∧ y ∈ t.prerequisites) ∨ Joins rest x y := by
  simp only [Joins, List.mem_cons, or_and_right, exists_or, exists_eq_left]

/-- The edges that a task brings. -/
theorem edgeWith_iff {a : Agenda α} {t : Task α} {x y : String} :
    a.EdgeWith t.name t.prerequisites x y ↔ Joins (a.tasks ++ [t]) x y := by
  rw [joins_append, joins_cons]
  simp only [Joins, List.not_mem_nil, false_and, exists_false, or_false]
  exact or_congr_right (and_congr_left fun _ => eq_comm)

/-! ## What one more task does to cycles

A cycle that was not there before runs through the new task. Cut where it
last leaves the new task, it is a path back from one of the prerequisites,
along edges that were there before. -/

theorem back_of_reflTransGen {a : Agenda α} {name : String}
    {prerequisites : List String} {x : String}
    (h : ReflTransGen (a.EdgeWith name prerequisites) x name) :
    ReflTransGen a.Edge x name ∨
      ∃ p ∈ prerequisites, ReflTransGen a.Edge p name := by
  induction h using ReflTransGen.head_induction_on with
  | refl => exact .inl .refl
  | head hedge _ ih =>
      rcases ih with hpath | hback
      · rcases hedge with hold | ⟨rfl, hp⟩
        · exact .inl (.head hold hpath)
        · exact .inr ⟨_, hp, hpath⟩
      · exact .inr hback

theorem edgeWith_trans {a : Agenda α} {name : String}
    {prerequisites : List String} {x y : String}
    (h : TransGen (a.EdgeWith name prerequisites) x y) :
    TransGen a.Edge x y ∨
      ∃ p ∈ prerequisites,
        ReflTransGen (a.EdgeWith name prerequisites) x name ∧
          ReflTransGen (a.EdgeWith name prerequisites) p y := by
  induction h with
  | single hedge =>
      rcases hedge with hold | ⟨rfl, hp⟩
      · exact .inl (.single hold)
      · exact .inr ⟨_, hp, .refl, .refl⟩
  | tail hpath hedge ih =>
      rcases ih with hold | ⟨p, hp, hto, hfrom⟩
      · rcases hedge with hnext | ⟨rfl, hp⟩
        · exact .inl (.tail hold hnext)
        · exact .inr ⟨_, hp, hpath.to_reflTransGen, .refl⟩
      · exact .inr ⟨p, hp, hto, .tail hfrom hedge⟩

theorem exists_cycle_iff {a : Agenda α} (hac : a.Acyclic)
    {name : String} {prerequisites : List String} :
    (∃ x, TransGen (a.EdgeWith name prerequisites) x x) ↔
      ∃ p ∈ prerequisites, ReflTransGen a.Edge p name := by
  constructor
  · rintro ⟨x, hx⟩
    rcases edgeWith_trans hx with hold | ⟨p, hp, hto, hfrom⟩
    · exact absurd hold (hac x)
    · rcases back_of_reflTransGen (hfrom.trans hto) with hpath | hback
      · exact ⟨p, hp, hpath⟩
      · exact hback
  · rintro ⟨p, hp, hpath⟩
    refine ⟨name, .head' (.inr ⟨rfl, hp⟩) ?_⟩
    exact ReflTransGen.mono (fun _ _ h => Or.inl h) _ _ hpath

end Agenda

end SchemaPipeline
