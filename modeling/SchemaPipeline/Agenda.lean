/-!
# Agendas

An agenda holds named tasks, each with the names of the tasks that must come before it, and an index
from the names to the places of the tasks. A prerequisite may name a task that is registered later.
`register` keeps two things true: no name is registered twice, and the prerequisites of the
registered tasks have no cycle. A task that would close a cycle is refused, and the refusal shows
the cycle.

`schedule` orders the tasks so that each comes after its prerequisites. It counts for each task the
prerequisites that are still to come; a task whose count has come down to nothing is ready, and the
ready task registered first is the next one. So the order depends on nothing but the agenda.
-/

namespace SchemaPipeline

structure Task (α : Type) where
  name : String
  item : α
  prerequisites : List String
deriving Repr

/-- The index leads from each name to its place and from nothing else, so no name stands in two
places. -/
structure Agenda (α : Type) where
  tasks : List (Task α)
  index : List (String × Nat)
  indexed : ∀ name i, index.lookup name = some i ↔ (tasks.map Task.name)[i]? = some name
deriving Repr

inductive AgendaError where
  | duplicate (name : String)
  | cycle (names : List String)
  | unknown (task : String) (prerequisite : String)
deriving DecidableEq, Repr

namespace AgendaError

def message : AgendaError → String
  | .duplicate name => "item '" ++ name ++ "' is already registered"
  | .cycle names => "dependency cycle detected: " ++ " -> ".intercalate names
  | .unknown task prerequisite =>
    "item '" ++ task ++ "' depends on unknown item '" ++ prerequisite ++ "'"

end AgendaError

namespace Agenda

variable {α : Type}

def empty : Agenda α := ⟨[], [], by simp⟩

instance : Inhabited (Agenda α) := ⟨empty⟩

def size (a : Agenda α) : Nat := a.tasks.length

def names (a : Agenda α) : List String := a.tasks.map Task.name

def contains (a : Agenda α) (name : String) : Bool := (a.index.lookup name).isSome

def find? (a : Agenda α) (name : String) : Option (Task α) :=
  (a.index.lookup name).bind (a.tasks[·]?)

theorem contains_iff {a : Agenda α} {name : String} : a.contains name = true ↔ name ∈ a.names := by
  rw [contains, Option.isSome_iff_exists, List.mem_iff_getElem?]
  exact exists_congr fun i => a.indexed name i

/-- The agenda with a task of a new name in the last place. -/
def push (a : Agenda α) (t : Task α) (h : ¬ a.contains t.name = true) : Agenda α where
  tasks := a.tasks ++ [t]
  index := (t.name, a.size) :: a.index
  indexed name i := by
    rw [List.map_append, List.map_singleton, List.lookup_cons]
    by_cases hname : name = t.name
    · subst hname
      rw [beq_self_eq_true, Option.some_inj]
      constructor
      · rintro rfl
        simp [size]
      · intro hi
        have hnew : t.name ∉ a.names := fun hmem => h (contains_iff.2 hmem)
        rw [List.getElem?_append] at hi
        split at hi
        · exact absurd (List.mem_of_getElem? hi) hnew
        · have hlt := (List.getElem?_eq_some_iff.1 hi).1
          simp only [List.length_map, List.length_singleton] at *
          rw [size]
          omega
    · rw [beq_false_of_ne hname]
      refine (a.indexed name i).trans ?_
      rw [List.getElem?_append]
      split
      · exact Iff.rfl
      · next hge =>
          rw [List.getElem?_eq_none (Nat.le_of_not_lt hge)]
          refine iff_of_false nofun fun hi => hname ?_
          exact List.mem_singleton.1 (List.mem_of_getElem? hi)

/-! ## Adding a task -/

/-- A list without the repetitions of earlier elements. -/
def dedup : List String → List String
  | [] => []
  | x :: rest => x :: (dedup rest).filter (· != x)

/-- A search that may find a path, and the names it has entered. -/
abbrev Search := List String → Option (List String) × List String

/-- The first path that one of several searches finds, each one knowing the names that the ones
before it have entered. -/
def firstPath (search : String → Search) : List String → Search
  | [], seen => (none, seen)
  | name :: rest, seen =>
    match search name seen with
    | (some path, seen) => (some path, seen)
    | (none, seen) => firstPath search rest seen

/-- A path from a name to the target along prerequisites, both ends included, depth first. A name
is entered once. Each step down enters another task, so as many steps as there are tasks, and one
for the target, are enough. -/
def pathTo (a : Agenda α) (target : String) : Nat → String → Search
  | 0, _, seen => (none, seen)
  | fuel + 1, name, seen =>
    if name = target then (some [name], seen)
    else if name ∈ seen then (none, seen)
    else
      match a.find? name with
      | none => (none, name :: seen)
      | some task =>
        match firstPath (a.pathTo target fuel) task.prerequisites (name :: seen) with
        | (some path, seen) => (some (name :: path), seen)
        | (none, seen) => (none, seen)

/-- The first path to a name from one of a task's prerequisites, each searched afresh. -/
def pathBack (a : Agenda α) (name : String) (prerequisites : List String) :
    Option (List String) :=
  prerequisites.findSome? fun p => (a.pathTo name (a.size + 1) p []).1

/-- Registers a task, or says why not. -/
def register (a : Agenda α) (name : String) (item : α) (prerequisites : List String) :
    Except AgendaError Unit × Agenda α :=
  if h : a.contains name = true then (.error (.duplicate name), a)
  else
    let prerequisites := dedup prerequisites
    match a.pathBack name prerequisites with
    | some path => (.error (.cycle (name :: path)), a)
    | none => (.ok (), a.push ⟨name, item, prerequisites⟩ h)

/-- The agenda with one more task. -/
def add (a : Agenda α) (name : String) (item : α) (prerequisites : List String) :
    Except AgendaError (Agenda α) :=
  match a.register name item prerequisites with
  | (.ok _, b) => .ok b
  | (.error e, _) => .error e

/-! ## Scheduling -/

/-- For the task in each place, how many of its prerequisites are still to come, and the places of
the tasks that wait for it, one for each time that they require it. -/
structure Tally where
  counts : List Nat
  dependents : List (List Nat)

/-- Notes that the task in one place requires the task in another one. -/
def Tally.note (t : Tally) (place required : Nat) : Tally :=
  ⟨t.counts.modify place (· + 1), t.dependents.modify required (· ++ [place])⟩

/-- Notes what a task requires. -/
def noteTask (a : Agenda α) (t : Tally) (entry : Task α × Nat) : Except AgendaError Tally :=
  entry.1.prerequisites.foldlM (fun t p =>
    match a.index.lookup p with
    | none => .error (.unknown entry.1.name p)
    | some required => .ok (t.note entry.2 required)) t

def tally (a : Agenda α) : Except AgendaError Tally :=
  a.tasks.zipIdx.foldlM a.noteTask ⟨List.replicate a.size 0, List.replicate a.size []⟩

/-- A rising list of places with one more. -/
def insertPlace (place : Nat) : List Nat → List Nat
  | [] => [place]
  | i :: rest =>
    if place < i then place :: i :: rest
    else if place = i then i :: rest
    else i :: insertPlace place rest

/-- How many prerequisites are still to come, and the places of the tasks that are ready. -/
structure Queue where
  counts : List Nat
  ready : List Nat

/-- One prerequisite less is to come. -/
def Queue.release (q : Queue) (place : Nat) : Queue :=
  let left := q.counts.getD place 0 - 1
  ⟨q.counts.set place left, if left = 0 then insertPlace place q.ready else q.ready⟩

/-- Takes the ready tasks, the first place first, and lets go those that wait for them. Every place
is taken once, so as many rounds as there are places are enough. -/
def drain (dependents : List (List Nat)) : Nat → Queue → List Nat × Queue
  | 0, q => ([], q)
  | rounds + 1, q =>
    match q.ready with
    | [] => ([], q)
    | place :: ready =>
      let released := (dependents.getD place []).foldl Queue.release ⟨q.counts, ready⟩
      let (order, q) := drain dependents rounds released
      (place :: order, q)

/-- The places with a count of nothing. -/
def idle (counts : List Nat) : List Nat :=
  (counts.zipIdx.filter (·.1 == 0)).map Prod.snd

/-- The tasks, each after its prerequisites. Tasks that never get ready are the error. -/
def schedule (a : Agenda α) : Except AgendaError (List (Task α)) :=
  match a.tally with
  | .error e => .error e
  | .ok t =>
    let (order, q) := drain t.dependents a.size ⟨t.counts, idle t.counts⟩
    if order.length < a.size then
      .error (.cycle ((a.tasks.zip q.counts |>.filter (0 < ·.2)).map fun e => e.1.name))
    else .ok (order.filterMap (a.tasks[·]?))

def scheduledNames (a : Agenda α) : Except AgendaError (List String) :=
  a.schedule.map (·.map Task.name)

end Agenda

end SchemaPipeline
