import SchemaPipeline.Proofs.Agenda.Search

/-!
# What an agenda admits

`register` refuses a name that is taken, and it refuses a task that would close
a cycle; everything else it appends. The search back along the names decides
the second question for an agenda without cycles, and an agenda stays without
them by what `register` refuses, so by induction over the offers every agenda
there is has none. `register_decides` puts the answers together.
-/

namespace SchemaPipeline

namespace Agenda

open Relation (TransGen ReflTransGen)

variable {α : Type}

/-- A way from a name back to itself on which nothing else comes twice. -/
structure SimpleCycle (edge : String → String → Prop) (name : String)
    (cycle : List String) : Prop where
  starts : cycle.head? = some name
  ends : cycle.getLast? = some name
  returns : 2 ≤ cycle.length
  linked : cycle.IsChain edge
  distinct : cycle.tail.Nodup

/-! ## What an answer means -/

theorem mem_dedup {x : String} : ∀ {xs : List String}, x ∈ dedup xs ↔ x ∈ xs
  | [] => by rw [dedup]
  | y :: rest => by
      rw [dedup, List.mem_cons, List.mem_cons, List.mem_filter, mem_dedup]
      by_cases h : x = y <;> simp [h]

/-- The three ways in which `register` answers. -/
theorem register_cases (a : Agenda α) (name : String) (item : α)
    (prerequisites : List String) :
    (name ∈ a.names ∧
      a.register name item prerequisites = (.error (.duplicate name), a)) ∨
    (name ∉ a.names ∧ ∃ path,
      a.pathBack name (dedup prerequisites) = some path ∧
      a.register name item prerequisites =
        (.error (.cycle (name :: path)), a)) ∨
    ∃ hnew : ¬ a.contains name = true,
      a.pathBack name (dedup prerequisites) = none ∧
      a.register name item prerequisites =
        (.ok (), a.push ⟨name, item, dedup prerequisites⟩ hnew) := by
  by_cases hname : a.contains name = true
  · exact .inl ⟨contains_iff.1 hname, by rw [register, dif_pos hname]⟩
  · have hnew : name ∉ a.names := fun h => hname (contains_iff.2 h)
    refine .inr ?_
    rw [register, dif_neg hname]
    dsimp only
    cases hback : a.pathBack name (dedup prerequisites) with
    | some path => exact .inl ⟨hnew, path, rfl, rfl⟩
    | none => exact .inr ⟨hname, rfl, rfl⟩

theorem edgeWith_dedup (a : Agenda α) (name : String)
    (prerequisites : List String) :
    a.EdgeWith name (dedup prerequisites) = a.EdgeWith name prerequisites := by
  funext x y
  rw [EdgeWith, EdgeWith, mem_dedup]

/-- There is a way back exactly if the new edges close a cycle. -/
theorem pathBack_iff_cycle {a : Agenda α} (ha : a.Acyclic) {name : String}
    {prerequisites : List String} :
    (∃ path, a.pathBack name (dedup prerequisites) = some path) ↔
      ∃ x, TransGen (a.EdgeWith name prerequisites) x x := by
  rw [pathBack_isSome_iff, exists_cycle_iff ha]
  simp only [mem_dedup]

theorem simpleCycle_of_pathBack {a : Agenda α} {name : String}
    {prerequisites path : List String}
    (h : a.pathBack name (dedup prerequisites) = some path) :
    SimpleCycle (a.EdgeWith name prerequisites) name (name :: path) := by
  obtain ⟨p, hp, hpath⟩ := pathBack_simple h
  have hlink : path.IsChain (a.EdgeWith name prerequisites) :=
    hpath.linked.imp fun _ _ hedge => .inl hedge
  have hpos : path ≠ [] := by
    rintro rfl
    cases hpath.starts
  exact
    { starts := rfl
      ends := by rw [List.getLast?_cons, hpath.ends]; rfl
      returns := by
        have := List.length_pos_of_ne_nil hpos
        rw [List.length_cons]
        omega
      linked := List.isChain_cons.2 ⟨fun y hy => by
        rw [hpath.starts, Option.mem_some_iff] at hy
        exact .inr ⟨rfl, hy ▸ mem_dedup.1 hp⟩, hlink⟩
      distinct := hpath.distinct }

/-! ## The answers one by one -/

section

variable {a : Agenda α} {name : String} {item : α}
  {prerequisites : List String}

theorem register_duplicate_iff :
    (a.register name item prerequisites).1 = .error (.duplicate name) ↔
      name ∈ a.names := by
  rcases a.register_cases name item prerequisites with
    ⟨hname, heq⟩ | ⟨hnew, path, -, heq⟩ | ⟨hnew, -, heq⟩
  · exact iff_of_true (congrArg Prod.fst heq) hname
  · rw [heq]
    exact iff_of_false nofun hnew
  · rw [heq]
    exact iff_of_false nofun fun h => hnew (contains_iff.2 h)

theorem register_cycle_iff (ha : a.Acyclic) (hnew : name ∉ a.names) :
    (∃ cycle, (a.register name item prerequisites).1 =
        .error (.cycle cycle)) ↔
      ∃ x, TransGen (a.EdgeWith name prerequisites) x x := by
  rw [← pathBack_iff_cycle ha]
  rcases a.register_cases name item prerequisites with
    ⟨hname, -⟩ | ⟨-, path, hback, heq⟩ | ⟨_, hback, heq⟩
  · exact absurd hname hnew
  · exact iff_of_true ⟨name :: path, congrArg Prod.fst heq⟩ ⟨path, hback⟩
  · rw [heq, hback]
    exact iff_of_false nofun nofun

theorem simpleCycle_of_register {cycle : List String}
    (h : (a.register name item prerequisites).1 = .error (.cycle cycle)) :
    SimpleCycle (a.EdgeWith name prerequisites) name cycle := by
  rcases a.register_cases name item prerequisites with
    ⟨-, heq⟩ | ⟨-, path, hback, heq⟩ | ⟨_, -, heq⟩
  · cases h.symm.trans (congrArg Prod.fst heq)
  · cases h.symm.trans (congrArg Prod.fst heq)
    exact simpleCycle_of_pathBack hback
  · cases h.symm.trans (congrArg Prod.fst heq)

/-- A task that is refused leaves the agenda as it was. -/
theorem register_of_error {e : AgendaError}
    (h : (a.register name item prerequisites).1 = .error e) :
    (e = .duplicate name ∨ ∃ cycle, e = .cycle cycle) ∧
      (a.register name item prerequisites).2 = a := by
  rcases a.register_cases name item prerequisites with
    ⟨-, heq⟩ | ⟨-, path, -, heq⟩ | ⟨_, -, heq⟩
  · cases h.symm.trans (congrArg Prod.fst heq)
    exact ⟨.inl rfl, congrArg Prod.snd heq⟩
  · cases h.symm.trans (congrArg Prod.fst heq)
    exact ⟨.inr ⟨_, rfl⟩, congrArg Prod.snd heq⟩
  · cases h.symm.trans (congrArg Prod.fst heq)

/-- A task that is admitted closes no cycle and comes last. -/
theorem register_of_ok (h : (a.register name item prerequisites).1 = .ok ()) :
    a.pathBack name (dedup prerequisites) = none ∧
      ∃ hnew : ¬ a.contains name = true,
        (a.register name item prerequisites).2 =
          a.push ⟨name, item, dedup prerequisites⟩ hnew := by
  rcases a.register_cases name item prerequisites with
    ⟨-, heq⟩ | ⟨-, path, -, heq⟩ | ⟨hnew, hback, heq⟩
  · cases h.symm.trans (congrArg Prod.fst heq)
  · cases h.symm.trans (congrArg Prod.fst heq)
  · exact ⟨hback, hnew, congrArg Prod.snd heq⟩

end

/-! ## No agenda has a cycle -/

theorem acyclic_empty : (empty : Agenda α).Acyclic := by
  intro x hx
  obtain ⟨y, ⟨t, ht, -⟩, -⟩ := TransGen.head'_iff.1 hx
  cases ht

theorem edge_push {a : Agenda α} {t : Task α} (hnew : ¬ a.contains t.name = true) :
    (a.push t hnew).Edge = a.EdgeWith t.name t.prerequisites := by
  funext x y
  rw [eq_iff_iff, edgeWith_iff]
  rfl

theorem acyclic_offer {a : Agenda α} (ha : a.Acyclic) (t : Task α) :
    (a.offer t).Acyclic := by
  rw [offer]
  cases hanswer : (a.register t.name t.item t.prerequisites).1 with
  | error e => rwa [(register_of_error hanswer).2]
  | ok _ =>
      obtain ⟨hback, hnew, hpush⟩ := register_of_ok hanswer
      rw [hpush]
      intro x hx
      rw [edge_push, edgeWith_dedup] at hx
      obtain ⟨path, hpath⟩ := (pathBack_iff_cycle ha).2 ⟨x, hx⟩
      cases hpath.symm.trans hback

theorem acyclic_foldl_offer : ∀ (offers : List (Task α)) {a : Agenda α},
    a.Acyclic → (offers.foldl offer a).Acyclic
  | [], _, ha => ha
  | t :: rest, _, ha => acyclic_foldl_offer rest (acyclic_offer ha t)

theorem acyclic_ofOffers (offers : List (Task α)) : (ofOffers offers).Acyclic :=
  acyclic_foldl_offer offers acyclic_empty

/-! ## The answers of an agenda -/

/-- For every agenda that offers lead to and every task: a name is refused as
a duplicate exactly if it is taken; otherwise the task is refused for a cycle
exactly if its edges close one, and the report is a simple cycle through the
new name. A refusal leaves the agenda as it was, its index too. An admission
appends the one task and its place in the index, which still leads from each
name to its place and from nothing else, and leaves no cycle. The search ends
by itself on every agenda: more fuel changes nothing. -/
theorem register_decides (offers : List (Task α)) (name : String) (item : α)
    (prerequisites : List String) :
    let a := ofOffers offers
    let answer := (a.register name item prerequisites).1
    let after := (a.register name item prerequisites).2
    (answer = .error (.duplicate name) ↔ name ∈ a.names) ∧
    (name ∉ a.names →
      ((∃ cycle, answer = .error (.cycle cycle)) ↔
        ∃ x, TransGen (a.EdgeWith name prerequisites) x x)) ∧
    (∀ cycle, answer = .error (.cycle cycle) →
      SimpleCycle (a.EdgeWith name prerequisites) name cycle) ∧
    (∀ e, answer = .error e →
      (e = .duplicate name ∨ ∃ cycle, e = .cycle cycle) ∧ after = a) ∧
    (answer = .ok () →
      after.tasks = a.tasks ++ [⟨name, item, dedup prerequisites⟩] ∧
      after.index = (name, a.size) :: a.index ∧
      (∀ x i, after.index.lookup x = some i ↔ after.names[i]? = some x) ∧
      (∀ x t, after.find? x = some t ↔ t ∈ after.tasks ∧ t.name = x) ∧
      after.names.Nodup ∧ ∀ x, ¬ TransGen after.Edge x x) ∧
    (∀ (c : Agenda α) (source target : String) (extra : Nat),
      c.pathTo target (c.size + 1 + extra) source [] =
        c.pathTo target (c.size + 1) source []) := by
  intro a answer after
  have ha : a.Acyclic := acyclic_ofOffers offers
  refine ⟨register_duplicate_iff, fun hnew => register_cycle_iff ha hnew,
    fun cycle h => simpleCycle_of_register h, fun e h => register_of_error h,
    fun h => ?_, fun c source target extra =>
      pathTo_fuel_irrelevant c source target extra⟩
  obtain ⟨-, hnew, hpush⟩ := register_of_ok h
  have hac : after.Acyclic := acyclic_offer ha ⟨name, item, prerequisites⟩
  exact ⟨congrArg Agenda.tasks hpush, congrArg Agenda.index hpush,
    after.indexed, fun x t => find?_eq_some, after.names_nodup, hac⟩

end Agenda

end SchemaPipeline
