import SchemaPipeline.Walk.Basic

/-!
# The places a walk comes to

A walk that leaves every node as it is fails for one reason only: a reference
on its way has no target, or there is one reference too many on the way to a
node's schema. The places it comes to are told without the walk: from a schema
in a context, over references to their targets, and from a value with its
effective schema to its members and elements. `walk_ok_iff` says that the walk
returns the value exactly when it is settled at every place how to go on.
-/

namespace SchemaPipeline

/-- A visitor that returns every value unchanged. -/
def Visitor.Idle (visitor : Visitor) : Prop :=
  ∀ v pointer schema, visitor.visit v pointer schema = .ok v

namespace Walk

variable {κ : Type} [SchemaContext κ]

/-- A schema on the way to an effective one, and how many more references may
be followed. -/
structure Place (κ : Type) where
  schema : Value
  context : κ
  hops : Nat

namespace Place

/-- Where a walk starts, or goes on with a child. -/
def start (schema : Value) (context : κ) : Place κ := ⟨schema, context, maxHops⟩

/-- The context inside the schema. -/
def inner (p : Place κ) : κ :=
  match Schema.resourceId? p.schema with
  | some id => (SchemaContext.document p.context id).getD p.context
  | none => p.context

def reference? (p : Place κ) : Option String := Schema.reference? p.schema

/-- One reference too many. -/
def TooLong (p : Place κ) : Prop := p.hops = 0 ∧ p.reference?.isSome

/-- Where the reference of a place leads, if it may be followed. -/
def next? (p : Place κ) : Option (Place κ) :=
  match p.reference?, p.hops with
  | some reference, hops + 1 =>
    match Reference.resolveIn reference p.inner with
    | .ok target => some ⟨target.schema, target.context, hops⟩
    | .error _ => none
  | _, _ => none

/-- How to go on is clear: there is no reference, or it can be followed. -/
def Settled (p : Place κ) : Prop := p.reference?.isSome → p.next?.isSome

end Place

open Place

/-- The places that a walk over a value comes to from a place. -/
inductive Comes : Place κ → Value → Place κ → Prop where
  | here (p : Place κ) (v : Value) : Comes p v p
  | link {p q r : Place κ} {v : Value} (hnext : p.next? = some q)
      (h : Comes q v r) : Comes p v r
  | member {p r : Place κ} {ms : Members} {k : String} {w schema : Value}
      (hplain : p.reference? = none) (hmem : (k, w) ∈ ms)
      (hschema : propertySchema p.schema k = some schema)
      (h : Comes (start schema p.inner) w r) : Comes p (.object ms) r
  | item {p r : Place κ} {xs : List Value} {i : Nat} {w schema : Value}
      (hplain : p.reference? = none) (hmem : xs[i]? = some w)
      (hschema : itemSchema p.schema i = some schema)
      (h : Comes (start schema p.inner) w r) : Comes p (.array xs) r

/-- It is settled everywhere how to go on. -/
def Clear (p : Place κ) (v : Value) : Prop := ∀ q, Comes p v q → q.Settled

/-! ## Steps -/

theorem enterResource_some (schema : Value) (context : κ) (hops : Nat) :
    enterResource schema (some context) =
      some (Place.inner ⟨schema, context, hops⟩) := by
  unfold enterResource Place.inner
  cases Schema.resourceId? schema <;> rfl

theorem next?_of_plain {p : Place κ} (h : p.reference? = none) :
    p.next? = none := by
  rw [next?, h]

theorem clear_of_next {p q : Place κ} {v : Value} (h : p.next? = some q) :
    Clear p v ↔ Clear q v := by
  have href : p.reference? ≠ none := by
    intro hnone
    rw [next?_of_plain hnone] at h
    cases h
  constructor
  · exact fun hclear r hr => hclear r (.link h hr)
  · intro hclear r hr
    cases hr with
    | here => exact fun _ => by rw [h]; rfl
    | link hnext hr =>
        rw [h] at hnext
        cases hnext
        exact hclear r hr
    | member hplain => exact absurd hplain href
    | item hplain => exact absurd hplain href

theorem settled_of_plain {p : Place κ} (h : p.reference? = none) :
    p.Settled := by
  intro href
  rw [h] at href
  cases href

theorem not_settled {p : Place κ} {reference : String}
    (href : p.reference? = some reference) (hnext : p.next? = none) :
    ¬ p.Settled := by
  intro h
  have := h (by rw [href]; rfl)
  rw [hnext] at this
  cases this

/-- A place is settled when its reference has a target and is not one too
many. -/
theorem settled_iff {p : Place κ} (h : ¬ p.TooLong) :
    p.Settled ↔ ∀ reference, p.reference? = some reference →
      ∃ target, Reference.resolveIn reference p.inner = .ok target := by
  unfold Place.Settled Place.next?
  unfold Place.TooLong at h
  cases href : p.reference? with
  | none => simp
  | some reference =>
      cases hhops : p.hops with
      | zero => exact absurd ⟨hhops, by rw [href]; rfl⟩ h
      | succ hops =>
          cases hresolve : Reference.resolveIn reference p.inner with
          | error e => simp [hresolve]
          | ok target => simp [hresolve]

/-- Without a reference it is for the children to be settled. -/
theorem clear_of_plain {p : Place κ} {v : Value} (h : p.reference? = none) :
    Clear p v ↔
      (∀ ms, v = .object ms → ∀ k w, (k, w) ∈ ms →
        ∀ schema, propertySchema p.schema k = some schema →
          Clear (start schema p.inner) w) ∧
      (∀ xs, v = .array xs → ∀ i w, xs[i]? = some w →
        ∀ schema, itemSchema p.schema i = some schema →
          Clear (start schema p.inner) w) := by
  constructor
  · intro hclear
    refine ⟨?_, ?_⟩
    · rintro ms rfl k w hmem schema hschema r hr
      exact hclear r (.member h hmem hschema hr)
    · rintro xs rfl i w hmem schema hschema r hr
      exact hclear r (.item h hmem hschema hr)
  · rintro ⟨hmembers, hitems⟩ r hr
    cases hr with
    | here => exact settled_of_plain h
    | link hnext =>
        rw [next?_of_plain h] at hnext
        cases hnext
    | member _ hmem hschema hr =>
        exact hmembers _ rfl _ _ hmem _ hschema r hr
    | item _ hmem hschema hr => exact hitems _ rfl _ _ hmem _ hschema r hr

/-! ## Chains of references -/

theorem follow_eq (p : Place κ) :
    follow p.hops p.schema (some p.context) =
      match p.reference? with
      | none => .ok (p.schema, some p.inner)
      | some reference =>
        match p.next? with
        | some q => follow q.hops q.schema (some q.context)
        | none => .error reference := by
  obtain ⟨schema, context, hops⟩ := p
  rw [follow, enterResource_some schema context hops]
  cases href : Schema.reference? schema with
  | none => simp only [Place.reference?, href]
  | some reference =>
      cases hops with
      | zero => simp only [Place.reference?, Place.next?, href]
      | succ hops =>
          simp only [Place.reference?, Place.next?, href, Reference.resolve]
          cases Reference.resolveIn reference
            (Place.inner ⟨schema, context, hops + 1⟩) with
          | error e => rfl
          | ok target => rfl

theorem hops_of_next {p q : Place κ} (h : p.next? = some q) :
    q.hops + 1 = p.hops := by
  unfold Place.next? at h
  split at h
  · next hhops =>
      split at h
      · cases h
        exact hhops.symm
      · cases h
  · cases h

/-- A chain of references ends in a schema without one, from where the walk
goes on, or in a reference that cannot be followed. -/
theorem follow_cases (p : Place κ) :
    (∃ q : Place κ, q.reference? = none ∧
        follow p.hops p.schema (some p.context) = .ok (q.schema, some q.inner) ∧
        ∀ v, Clear p v ↔ Clear q v) ∨
      ∃ reference, follow p.hops p.schema (some p.context) = .error reference ∧
        ∀ v, ¬ Clear p v := by
  induction hhops : p.hops generalizing p with
  | zero =>
      rw [← hhops, follow_eq]
      cases href : p.reference? with
      | none => exact .inl ⟨p, href, rfl, fun _ => Iff.rfl⟩
      | some reference =>
          have hstuck : p.next? = none := by
            rw [Place.next?, href, hhops]
          refine .inr ⟨reference, by rw [hstuck], fun v hclear => ?_⟩
          exact not_settled href hstuck (hclear p (.here p v))
  | succ hops ih =>
      rw [← hhops, follow_eq]
      cases href : p.reference? with
      | none => exact .inl ⟨p, href, rfl, fun _ => Iff.rfl⟩
      | some reference =>
          cases hnext : p.next? with
          | none =>
              refine .inr ⟨reference, rfl, fun v hclear => ?_⟩
              exact not_settled href hnext (hclear p (.here p v))
          | some q =>
              have hq : q.hops = hops := by
                have := hops_of_next hnext
                omega
              have hclear := fun v => clear_of_next (v := v) hnext
              simp only [hclear, hq]
              exact ih q hq

/-! ## Steps of a walk -/

theorem andThen_ok {α β : Type} {s : Step α} {f : α → Step β} {b : β} :
    (s.andThen f).2 = .ok b ↔ ∃ a, s.2 = .ok a ∧ (f a).2 = .ok b := by
  obtain ⟨trace, result⟩ := s
  cases result with
  | error e => simp [Step.andThen]
  | ok a => simp [Step.andThen]

theorem map_ok {α β : Type} {s : Step α} {f : α → β} {b : β} :
    (s.map f).2 = .ok b ↔ ∃ a, s.2 = .ok a ∧ f a = b := by
  obtain ⟨trace, result⟩ := s
  cases result with
  | error e => simp [Step.map, Except.map]
  | ok a => simp [Step.map, Except.map]

theorem visitMembers_ok {child : String → Value → Step Value} {ms : Members} :
    (visitMembers child ms).2 = .ok ms ↔
      ∀ k w, (k, w) ∈ ms → (child k w).2 = .ok w := by
  induction ms with
  | nil => simp [visitMembers]
  | cons e rest ih =>
      obtain ⟨k, w⟩ := e
      simp only [visitMembers, andThen_ok, map_ok, List.cons.injEq,
        Prod.mk.injEq, List.mem_cons]
      constructor
      · rintro ⟨w', hw, rest', hrest, ⟨-, rfl⟩, rfl⟩ k' v' (⟨rfl, rfl⟩ | hmem)
        · exact hw
        · exact ih.1 hrest k' v' hmem
      · intro h
        refine ⟨w, h k w (.inl ⟨rfl, rfl⟩), rest, ?_, by simp⟩
        exact ih.2 fun k' v' hmem => h k' v' (.inr hmem)

theorem visitItems_ok {child : Nat → Value → Step Value} {xs : List Value}
    {i : Nat} :
    (visitItems child i xs).2 = .ok xs ↔
      ∀ j w, xs[j]? = some w → (child (i + j) w).2 = .ok w := by
  induction xs generalizing i with
  | nil => simp [visitItems]
  | cons x rest ih =>
      simp only [visitItems, andThen_ok, map_ok, List.cons.injEq]
      constructor
      · rintro ⟨x', hx, rest', hrest, rfl, rfl⟩ j w hj
        cases j with
        | zero =>
            cases hj
            exact hx
        | succ j =>
            have := ih.1 hrest j w (by simpa using hj)
            rwa [Nat.add_right_comm] at this
      · intro h
        refine ⟨x, h 0 x rfl, rest, ih.2 fun j w hj => ?_, rfl, rfl⟩
        have := h (j + 1) w (by simpa using hj)
        rwa [← Nat.add_assoc, Nat.add_right_comm] at this

/-! ## Walks that change nothing -/

theorem size_pos (v : Value) : 0 < v.size := by
  cases v with
  | array xs =>
      rw [Value.size]
      omega
  | object ms =>
      rw [Value.size]
      omega
  | _ => exact Nat.one_pos

theorem size_lt_of_mem {ms : Members} {k : String} {w : Value}
    (h : (k, w) ∈ ms) : w.size < (Value.object ms).size := by
  rw [Value.size]
  induction ms with
  | nil => cases h
  | cons e rest ih =>
      obtain ⟨key, v⟩ := e
      rw [sizeMembers]
      rcases List.mem_cons.1 h with heq | hmem
      · cases heq
        omega
      · have := ih hmem
        omega

theorem size_lt_of_getElem? {xs : List Value} {i : Nat} {w : Value}
    (h : xs[i]? = some w) : w.size < (Value.array xs).size := by
  rw [Value.size]
  induction xs generalizing i with
  | nil => cases h
  | cons x rest ih =>
      rw [sizeItems]
      cases i with
      | zero =>
          cases h
          omega
      | succ i =>
          have := ih (i := i) (by simpa using h)
          omega

section

variable {visitor : Visitor} (hidle : visitor.Idle)
include hidle

/-- A node whose schema is known is returned when its children are. -/
theorem walk_succ_ok {depth : Nat} {v : Value} {pointer : Pointer}
    {schema schema' : Option Value} {context context' : Option κ}
    (hnode : nodeSchema schema context = .ok (schema', context')) :
    (walk visitor (depth + 1) v pointer schema context).2 = .ok v ↔
      (∀ ms, v = .object ms → ∀ k w, (k, w) ∈ ms →
        (walk visitor depth w (pointer.push k)
          (schema'.bind fun s => propertySchema s k) context').2 = .ok w) ∧
      (∀ xs, v = .array xs → ∀ i w, xs[i]? = some w →
        (walk visitor depth w (pointer.push (Pointer.indexToken i))
          (schema'.bind fun s => itemSchema s i) context').2 = .ok w) := by
  rw [walk, hnode]
  simp only [hidle v]
  cases v with
  | object ms =>
      simp [andThen_ok, map_ok, visitMembers_ok]
  | array xs =>
      simp [andThen_ok, map_ok, visitItems_ok]
  | _ => simp

/-- Where no schema is known nothing can fail. -/
theorem walk_none {depth : Nat} {v : Value} (hdepth : v.size ≤ depth)
    (pointer : Pointer) (context : Option κ) :
    (walk visitor depth v pointer none context).2 = .ok v := by
  induction depth generalizing v pointer with
  | zero =>
      have := size_pos v
      omega
  | succ depth ih =>
      refine (walk_succ_ok hidle rfl).2 ⟨?_, ?_⟩
      · rintro ms rfl k w hmem
        have := size_lt_of_mem hmem
        exact ih (by omega) _
      · rintro xs rfl i w hmem
        have := size_lt_of_getElem? hmem
        exact ih (by omega) _

/-- A walk that changes nothing returns the value exactly when it is settled at
every place it comes to how to go on. -/
theorem walk_ok_iff {depth : Nat} {v : Value} (hdepth : v.size ≤ depth)
    (pointer : Pointer) (schema : Value) (context : κ) :
    (walk visitor depth v pointer (some schema) (some context)).2 = .ok v ↔
      Clear (start schema context) v := by
  induction depth generalizing v pointer schema context with
  | zero =>
      have := size_pos v
      omega
  | succ depth ih =>
      have hnode : nodeSchema (some schema) (some context) =
          (follow (start schema context).hops (start schema context).schema
            (some (start schema context).context)).map
            fun r => (some r.1, r.2) := rfl
      -- a child without a schema is walked without one
      have hchild : ∀ (w : Value) (child : Option Value) (place : Pointer)
          (inner : κ), w.size ≤ depth →
          ((walk visitor depth w place child (some inner)).2 = .ok w ↔
            ∀ schema, child = some schema → Clear (start schema inner) w) := by
        intro w child place inner hsize
        cases child with
        | none => simp [walk_none hidle hsize]
        | some schema => simpa using ih hsize place schema inner
      rcases follow_cases (start schema context) with
        ⟨q, hplain, hfollow, hclear⟩ | ⟨reference, hfollow, hclear⟩
      · rw [hfollow] at hnode
        rw [walk_succ_ok hidle hnode, hclear, clear_of_plain hplain]
        refine and_congr ?_ ?_
        · refine forall_congr' fun ms => forall_congr' fun hv =>
            forall_congr' fun k => forall_congr' fun w =>
              forall_congr' fun hmem => hchild w _ _ _ ?_
          have := size_lt_of_mem hmem
          rw [hv] at hdepth
          omega
        · refine forall_congr' fun xs => forall_congr' fun hv =>
            forall_congr' fun i => forall_congr' fun w =>
              forall_congr' fun hmem => hchild w _ _ _ ?_
          have := size_lt_of_getElem? hmem
          rw [hv] at hdepth
          omega
      · rw [walk, hnode, hfollow]
        simp [Except.map, hclear v]

end

end Walk

end SchemaPipeline
