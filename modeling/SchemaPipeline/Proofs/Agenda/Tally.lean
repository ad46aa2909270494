import SchemaPipeline.Proofs.Agenda.Graph
import SchemaPipeline.Proofs.Lists

/-!
# The tally of an agenda

A pass over the tasks notes what each of them requires: it counts the
prerequisites of the task, and puts the task down with those that wait for the
prerequisite. So in the end each count is the number of prerequisites, and each
task waits for a name as often as it requires it (`tally_known`). A prerequisite
that nobody has registered ends the pass, and the first one does
(`tally_unknown`).
-/

namespace SchemaPipeline

namespace Agenda

variable {α : Type}

/-- The first prerequisite of a task that is not registered, with the task. -/
def firstUnknown (a : Agenda α) : Option (String × String) :=
  a.tasks.findSome? fun t =>
    (t.prerequisites.find? fun p => !a.contains p).map fun p => (t.name, p)

/-! ## Counts -/

namespace Tally

/-- How many prerequisites of a task are still to come. -/
def count (t : Tally) (i : Nat) : Nat := t.counts.getD i 0

/-- How often a task waits for another one. -/
def waits (t : Tally) (d i : Nat) : Nat := (t.dependents.getD d []).count i

/-- There is an entry for each place. -/
structure Wide (n : Nat) (t : Tally) : Prop where
  counts : t.counts.length = n
  dependents : t.dependents.length = n

variable {n i d : Nat} {t : Tally}

theorem Wide.note (h : t.Wide n) : (t.note i d).Wide n :=
  ⟨by simp [Tally.note, h.counts], by simp [Tally.note, h.dependents]⟩

theorem count_note (h : t.Wide n) (hi : i < n) (j : Nat) :
    (t.note i d).count j = t.count j + if i = j then 1 else 0 := by
  have hlen : i < t.counts.length := h.counts ▸ hi
  simp only [count, note, List.getD_eq_getElem?_getD, List.getElem?_modify]
  by_cases hij : i = j
  · subst hij
    simp [List.getElem?_eq_getElem hlen]
  · simp [hij]

theorem waits_note (h : t.Wide n) (hd : d < n) (e j : Nat) :
    (t.note i d).waits e j = t.waits e j + if d = e ∧ i = j then 1 else 0 := by
  have hlen : d < t.dependents.length := h.dependents ▸ hd
  simp only [waits, note, List.getD_eq_getElem?_getD, List.getElem?_modify]
  by_cases hde : d = e
  · subst hde
    simp [List.getElem?_eq_getElem hlen, List.count_append, List.count_singleton]
  · simp [hde]

end Tally

/-- What the tasks in their places require. -/
def requirements (entries : List (Task α × Nat)) : List (Nat × String) :=
  entries.flatMap fun e => e.1.prerequisites.map (Prod.mk e.2)

theorem countP_requirements (P : String → Bool) (tasks : List (Task α))
    (k j : Nat) :
    (requirements (tasks.zipIdx k)).countP (fun r => r.1 == k + j && P r.2) =
      (tasks[j]?.map fun t => t.prerequisites.countP P).getD 0 := by
  induction tasks generalizing k j with
  | nil => rfl
  | cons t rest ih =>
      rw [List.zipIdx_cons, requirements, List.flatMap_cons, List.countP_append,
        List.countP_map]
      cases j with
      | zero =>
          have hrest : (requirements (rest.zipIdx (k + 1))).countP
              (fun r => r.1 == k + 0 && P r.2) = 0 := by
            rw [List.countP_eq_zero]
            rintro ⟨i, p⟩ hmem
            obtain ⟨⟨u, l⟩, hu, hp⟩ := List.mem_flatMap.1 hmem
            obtain ⟨q, -, hq⟩ := List.mem_map.1 hp
            cases hq
            have := List.le_snd_of_mem_zipIdx hu
            simp only [Nat.add_zero, Bool.and_eq_true, beq_iff_eq]
            omega
          rw [← requirements, hrest]
          simp [Function.comp_def]
      | succ j =>
          have hnone : t.prerequisites.countP
              ((fun r : Nat × String => r.1 == k + (j + 1) && P r.2) ∘
                Prod.mk k) = 0 := by
            rw [List.countP_eq_zero]
            intro p _
            simp
          rw [hnone, Nat.zero_add, ← requirements,
            show k + (j + 1) = k + 1 + j by omega, ih]
          rfl

/-- The second tally is the first one with these requirements. -/
structure Adds (a : Agenda α) (rs : List (Nat × String)) (t t' : Tally) :
    Prop where
  wide : t'.Wide a.size
  count : ∀ j, t'.count j = t.count j + rs.countP fun r => r.1 == j
  waits : ∀ d x, a.names[d]? = some x → ∀ j,
    t'.waits d j = t.waits d j + rs.countP fun r => r.1 == j && r.2 == x

namespace Adds

variable {a : Agenda α} {rs rs' : List (Nat × String)} {t t' t'' : Tally}

theorem none (h : t.Wide a.size) : a.Adds [] t t := ⟨h, by simp, by simp⟩

theorem append (h : a.Adds rs t t') (h' : a.Adds rs' t' t'') :
    a.Adds (rs ++ rs') t t'' where
  wide := h'.wide
  count j := by rw [h'.count, h.count, List.countP_append, Nat.add_assoc]
  waits d x hd j := by
    rw [h'.waits d x hd, h.waits d x hd, List.countP_append, Nat.add_assoc]

theorem note {i d : Nat} {p : String} (h : t.Wide a.size) (hi : i < a.size)
    (hp : a.index.lookup p = some d) : a.Adds [(i, p)] t (t.note i d) where
  wide := h.note
  count j := by
    rw [Tally.count_note h hi]
    simp
  waits e x hx j := by
    have hd : a.names[d]? = some p := (a.indexed p d).1 hp
    have hlt : d < a.size := by
      have := (List.getElem?_eq_some_iff.1 hd).1
      rwa [names, List.length_map] at this
    have hsame : d = e ↔ p = x := by
      constructor
      · rintro rfl
        exact Option.some.inj (hd.symm.trans hx)
      · rintro rfl
        exact Option.some.inj (hp.symm.trans ((a.indexed _ e).2 hx))
    rw [Tally.waits_note h hlt]
    simp [hsame, and_comm]

end Adds

theorem noteTask_unknown {a : Agenda α} {entry : Task α × Nat} {p : String}
    (h : entry.1.prerequisites.find? (fun p => !a.contains p) = some p)
    (t : Tally) : a.noteTask t entry = .error (.unknown entry.1.name p) := by
  obtain ⟨task, i⟩ := entry
  rw [noteTask]
  dsimp only at h ⊢
  generalize task.prerequisites = ps at h ⊢
  induction ps generalizing t with
  | nil => cases h
  | cons q rest ih =>
      rw [List.find?_cons] at h
      rw [List.foldlM_cons]
      cases hlookup : a.index.lookup q with
      | none =>
          rw [contains, hlookup] at h
          cases h
          rfl
      | some d =>
          rw [contains, hlookup] at h
          exact ih _ h

theorem noteTask_known {a : Agenda α} {entry : Task α × Nat}
    (h : entry.1.prerequisites.find? (fun p => !a.contains p) = none)
    (hi : entry.2 < a.size) {t : Tally} (ht : t.Wide a.size) :
    ∃ t', a.noteTask t entry = .ok t' ∧ a.Adds (requirements [entry]) t t' := by
  obtain ⟨task, i⟩ := entry
  rw [noteTask, requirements, List.flatMap_singleton]
  dsimp only at h hi ⊢
  generalize task.prerequisites = ps at h ⊢
  induction ps generalizing t with
  | nil => exact ⟨t, rfl, .none ht⟩
  | cons q rest ih =>
      rw [List.find?_cons] at h
      rw [List.foldlM_cons]
      cases hlookup : a.index.lookup q with
      | none =>
          rw [contains, hlookup] at h
          cases h
      | some d =>
          rw [contains, hlookup] at h
          have hnote : a.Adds [(i, q)] t (t.note i d) := .note ht hi hlookup
          obtain ⟨t', hfold, hadds⟩ := ih hnote.wide h
          exact ⟨t', hfold, hnote.append hadds⟩

/-- The tally fails at the first prerequisite that is not registered. -/
theorem foldlM_noteTask_unknown {a : Agenda α} {entries : List (Task α × Nat)}
    {found : String × String}
    (h : entries.findSome? (fun e => (e.1.prerequisites.find? fun p =>
      !a.contains p).map fun p => (e.1.name, p)) = some found)
    (hplaces : ∀ e ∈ entries, e.2 < a.size) {t : Tally} (ht : t.Wide a.size) :
    entries.foldlM a.noteTask t = .error (.unknown found.1 found.2) := by
  induction entries generalizing t with
  | nil => cases h
  | cons e rest ih =>
      rw [List.findSome?_cons] at h
      rw [List.foldlM_cons]
      cases hfind : e.1.prerequisites.find? (fun p => !a.contains p) with
      | some p =>
          rw [hfind] at h
          cases h
          rw [noteTask_unknown hfind]
          rfl
      | none =>
          rw [hfind] at h
          obtain ⟨t', hnote, hadds⟩ :=
            noteTask_known hfind (hplaces e List.mem_cons_self) ht
          rw [hnote]
          exact ih h (fun e he => hplaces e (List.mem_cons_of_mem _ he)) hadds.wide

theorem foldlM_noteTask_known {a : Agenda α} {entries : List (Task α × Nat)}
    (h : ∀ e ∈ entries, e.1.prerequisites.find? (fun p => !a.contains p) = none)
    (hplaces : ∀ e ∈ entries, e.2 < a.size) {t : Tally} (ht : t.Wide a.size) :
    ∃ t', entries.foldlM a.noteTask t = .ok t' ∧
      a.Adds (requirements entries) t t' := by
  induction entries generalizing t with
  | nil => exact ⟨t, rfl, .none ht⟩
  | cons e rest ih =>
      rw [List.foldlM_cons]
      obtain ⟨t', hnote, hadds⟩ := noteTask_known (h e List.mem_cons_self)
        (hplaces e List.mem_cons_self) ht
      obtain ⟨t'', hrest, hadds'⟩ :=
        ih (fun e he => h e (List.mem_cons_of_mem _ he))
          (fun e he => hplaces e (List.mem_cons_of_mem _ he)) hadds.wide
      rw [hnote]
      refine ⟨t'', hrest, ?_⟩
      have hsplit : requirements (e :: rest) =
          requirements [e] ++ requirements rest := by
        simp [requirements]
      rw [hsplit]
      exact hadds.append hadds'

theorem snd_lt_of_mem_zipIdx {a : Agenda α} :
    ∀ e ∈ a.tasks.zipIdx, e.2 < a.size := by
  intro e he
  have := List.snd_lt_of_mem_zipIdx he
  rwa [Nat.add_zero] at this

namespace Tally

/-- The tally before anything is noted. -/
abbrev start (n : Nat) : Tally := ⟨List.replicate n 0, List.replicate n []⟩

theorem wide_start (n : Nat) : (start n).Wide n :=
  ⟨List.length_replicate, List.length_replicate⟩

theorem count_start (n i : Nat) : (start n).count i = 0 := by
  rw [count, List.getD_eq_getElem?_getD, List.getElem?_replicate]
  split <;> rfl

theorem waits_start (n d i : Nat) : (start n).waits d i = 0 := by
  rw [waits, List.getD_eq_getElem?_getD, List.getElem?_replicate]
  split <;> rfl

end Tally

theorem tally_unknown {a : Agenda α} {found : String × String}
    (h : a.firstUnknown = some found) :
    a.tally = .error (.unknown found.1 found.2) :=
  foldlM_noteTask_unknown ((findSome?_zipIdx _ _ 0).trans h)
    snd_lt_of_mem_zipIdx (Tally.wide_start _)

/-- Each task waits for a name as often as it requires it. -/
structure Listed (a : Agenda α) (dependents : List (List Nat)) : Prop where
  count : ∀ d x, a.names[d]? = some x → ∀ i t, a.tasks[i]? = some t →
    (dependents.getD d []).count i = t.prerequisites.count x
  lt : ∀ d, ∀ i ∈ dependents.getD d [], i < a.size

/-- A complete agenda has a tally: each task is counted with all that it
requires. -/
theorem tally_known {a : Agenda α} (h : a.firstUnknown = none) :
    ∃ t, a.tally = .ok t ∧ t.Wide a.size ∧
      (∀ i u, a.tasks[i]? = some u → t.count i = u.prerequisites.length) ∧
      a.Listed t.dependents := by
  rw [firstUnknown, List.findSome?_eq_none_iff] at h
  have hknown : ∀ e ∈ a.tasks.zipIdx,
      e.1.prerequisites.find? (fun p => !a.contains p) = none := by
    intro e he
    exact Option.map_eq_none_iff.1 (h e.1 (List.fst_mem_of_mem_zipIdx he))
  obtain ⟨t, htally, hadds⟩ :=
    foldlM_noteTask_known hknown snd_lt_of_mem_zipIdx (Tally.wide_start a.size)
  have hwaits : ∀ d x, a.names[d]? = some x → ∀ i, t.waits d i =
      (a.tasks[i]?.map fun u => u.prerequisites.count x).getD 0 := by
    intro d x hd i
    have hcount := countP_requirements (· == x) a.tasks 0 i
    simp only [Nat.zero_add] at hcount
    rw [hadds.waits d x hd, Tally.waits_start, Nat.zero_add, hcount]
    rfl
  refine ⟨t, htally, hadds.wide, fun i u hu => ?_, fun d x hd i u hu => ?_,
    fun d i hi => ?_⟩
  · have hcount := countP_requirements (fun _ => true) a.tasks 0 i
    simp only [Bool.and_true, Nat.zero_add, hu, Option.map_some, Option.getD_some,
      List.countP_true] at hcount
    rw [hadds.count, hcount, Tally.count_start, Nat.zero_add]
  · have := hwaits d x hd i
    rwa [hu] at this
  · by_contra hge
    have hpos : 0 < t.waits d i := List.count_pos_iff.2 hi
    have hlt : d < t.dependents.length := by
      by_contra hd
      rw [List.getD_eq_getElem?_getD,
        List.getElem?_eq_none (Nat.le_of_not_lt hd)] at hi
      cases hi
    have hname : d < a.names.length := by
      rwa [names, List.length_map, ← size, ← hadds.wide.dependents]
    rw [hwaits d _ (List.getElem?_eq_getElem hname),
      List.getElem?_eq_none (Nat.le_of_not_lt hge)] at hpos
    exact absurd hpos (Nat.lt_irrefl 0)

end Agenda

end SchemaPipeline
