import SchemaPipeline.Proofs.Registry.Coverage
import SchemaPipeline.Proofs.Walk.Order

/-!
# Chains of references

A link of a chain is told apart from the bound on their number: a schema is
entered, its reference is resolved in the context inside, and what is found
stands in a context again. From a given place there is one chain only, however
it crosses documents and embedded resources, and it may lead back to a place and
go on for ever.

`follow` goes along the chain up to its bound. So there are three ends: a schema
without a reference, a reference without a target, and the reference that is one
too many. `walk_follows_chain` says what a walk does at each of them, and that
under a context a visitor sees the first only.
-/

namespace SchemaPipeline.Walk

open Reference

variable {κ : Type} [SchemaContext κ]

/-- The context inside a schema. -/
def inside (p : Target κ) : κ := (Place.start p.schema p.context).inner

/-- A reference leads from one schema to another. -/
def Link (p q : Target κ) : Prop :=
  ∃ reference, Schema.reference? p.schema = some reference ∧
    resolveIn reference (inside p) = .ok q

/-- So many links lead from one schema to another. -/
inductive Chain : Nat → Target κ → Target κ → Prop where
  | nil (p : Target κ) : Chain 0 p p
  | cons {n : Nat} {p q r : Target κ} (hlink : Link p q) (h : Chain n q r) :
    Chain (n + 1) p r

/-- A chain of no more than so many links ends in a schema without a
reference. -/
def Reaches (hops : Nat) (p q : Target κ) : Prop :=
  ∃ n ≤ hops, Chain n p q ∧ Schema.reference? q.schema = none

/-- A chain comes to a reference that is not followed: it has no target, or it
comes after so many links. -/
inductive Stuck (hops : Nat) (p : Target κ) (reference : String) : Prop where
  | lost {n : Nat} {q : Target κ} (hn : n < hops) (h : Chain n p q)
      (href : Schema.reference? q.schema = some reference)
      (hlost : ∀ target, resolveIn reference (inside q) ≠ .ok target)
  | tooMany {q : Target κ} (h : Chain hops p q)
      (href : Schema.reference? q.schema = some reference)

variable {p q r : Target κ}

theorem Chain.append {m n : Nat} (h : Chain m p q) (h' : Chain n q r) :
    Chain (m + n) p r := by
  induction h with
  | nil => rwa [Nat.zero_add]
  | cons hlink _ ih =>
      rw [Nat.add_right_comm]
      exact .cons hlink (ih h')

/-- A chain of links has all the shorter ones in it. -/
theorem Chain.split {m n : Nat} (h : Chain (m + n) p r) :
    ∃ q, Chain m p q ∧ Chain n q r := by
  induction m generalizing p with
  | zero => exact ⟨p, .nil p, by rwa [Nat.zero_add] at h⟩
  | succ m ih =>
      rw [Nat.add_right_comm] at h
      cases h with
      | cons hlink h =>
          obtain ⟨q, hfront, hback⟩ := ih h
          exact ⟨q, .cons hlink hfront, hback⟩

/-- Before its last link a chain is at a reference. -/
theorem Chain.at_reference {m n : Nat} (h : Chain n p r) (hm : m < n) :
    ∃ q reference, Chain m p q ∧ Schema.reference? q.schema = some reference := by
  obtain ⟨k, rfl⟩ : ∃ k, n = m + (k + 1) := ⟨n - m - 1, by omega⟩
  obtain ⟨q, hfront, hback⟩ := h.split
  cases hback with
  | cons hlink _ =>
      obtain ⟨reference, href, -⟩ := hlink
      exact ⟨q, reference, hfront, href⟩

/-- On a circle there is no longest chain. -/
theorem Chain.circle {m k : Nat} (h : Chain m p q) (hcircle : Chain (k + 1) q q)
    (n : Nat) : ∃ l, n < l ∧ Chain l p q := by
  induction n with
  | zero => exact ⟨m + (k + 1), by omega, h.append hcircle⟩
  | succ n ih =>
      obtain ⟨l, hl, hchain⟩ := ih
      exact ⟨l + (k + 1), by omega, hchain.append hcircle⟩

/-- A chain ends in a schema without a reference, or is stuck. -/
theorem reaches_or_stuck (hops : Nat) (p : Target κ) :
    (∃ q, Reaches hops p q) ∨ ∃ reference, Stuck hops p reference := by
  induction hops generalizing p with
  | zero =>
      cases href : Schema.reference? p.schema with
      | none => exact .inl ⟨p, 0, Nat.le_refl 0, .nil p, href⟩
      | some reference => exact .inr ⟨reference, .tooMany (.nil p) href⟩
  | succ hops ih =>
      cases href : Schema.reference? p.schema with
      | none => exact .inl ⟨p, 0, Nat.zero_le _, .nil p, href⟩
      | some reference =>
          cases htarget : resolveIn reference (inside p) with
          | error e =>
              refine .inr ⟨reference, .lost (Nat.succ_pos hops) (.nil p) href ?_⟩
              intro target h
              cases htarget.symm.trans h
          | ok q =>
              have hlink : Link p q := ⟨reference, href, htarget⟩
              rcases ih q with ⟨r, n, hn, hchain, hplain⟩ | ⟨reference, hstuck⟩
              · exact .inl ⟨r, n + 1, by omega, .cons hlink hchain, hplain⟩
              · refine .inr ⟨reference, ?_⟩
                cases hstuck with
                | lost hn hchain href hlost =>
                    exact .lost (by omega) (.cons hlink hchain) href hlost
                | tooMany hchain href =>
                    exact .tooMany (.cons hlink hchain) href

/-! ## Along the chain -/

theorem enterResource_inside (p : Target κ) :
    enterResource p.schema (some p.context) = some (inside p) :=
  enterResource_some p.schema p.context maxHops

theorem follow_plain (href : Schema.reference? p.schema = none) (hops : Nat) :
    follow hops p.schema (some p.context) = .ok (p.schema, some (inside p)) := by
  rw [follow, enterResource_inside]
  simp only [href]

theorem follow_link (h : Link p q) (hops : Nat) :
    follow (hops + 1) p.schema (some p.context) =
      follow hops q.schema (some q.context) := by
  obtain ⟨reference, href, htarget⟩ := h
  rw [follow, enterResource_inside]
  simp only [href, resolve, htarget]
  rfl

theorem follow_zero {reference : String}
    (href : Schema.reference? p.schema = some reference) :
    follow 0 p.schema (some p.context) = .error reference := by
  rw [follow]
  simp only [href]

theorem follow_lost {reference : String}
    (href : Schema.reference? p.schema = some reference)
    (hlost : ∀ target, resolveIn reference (inside p) ≠ .ok target)
    (hops : Nat) :
    follow (hops + 1) p.schema (some p.context) = .error reference := by
  rw [follow, enterResource_inside]
  simp only [href, resolve]
  cases htarget : resolveIn reference (inside p) with
  | ok target => exact absurd htarget (hlost target)
  | error e => rfl

theorem follow_chain {n : Nat} (h : Chain n p q) (hops : Nat) :
    follow (n + hops) p.schema (some p.context) =
      follow hops q.schema (some q.context) := by
  induction h with
  | nil => rw [Nat.zero_add]
  | cons hlink _ ih => rw [Nat.add_right_comm, follow_link hlink, ih]

theorem follow_of_reaches {hops : Nat} (h : Reaches hops p q) :
    follow hops p.schema (some p.context) = .ok (q.schema, some (inside q)) := by
  obtain ⟨n, hn, hchain, hplain⟩ := h
  obtain ⟨rest, rfl⟩ : ∃ rest, hops = n + rest := ⟨hops - n, by omega⟩
  rw [follow_chain hchain, follow_plain hplain]

theorem follow_of_stuck {hops : Nat} {reference : String}
    (h : Stuck hops p reference) :
    follow hops p.schema (some p.context) = .error reference := by
  cases h with
  | @lost n q hn hchain href hlost =>
      obtain ⟨rest, rfl⟩ : ∃ rest, hops = n + (rest + 1) :=
        ⟨hops - n - 1, by omega⟩
      rw [follow_chain hchain, follow_lost href hlost]
  | tooMany hchain href =>
      have h := follow_chain hchain 0
      rw [follow_zero href, Nat.add_zero] at h
      exact h

/-! ## At the nodes of a walk -/

/-- What a walk does at a node once its effective schema is found. -/
def visited (visitor : Visitor) (depth : Nat) (v : Value) (pointer : Pointer)
    (schema : Value) (context : κ) : Step Value :=
  match visitor.visit v pointer (some schema) with
  | .error e => ([⟨pointer, v, some schema⟩], .error (.failure e))
  | .ok u =>
    Step.andThen ([⟨pointer, v, some schema⟩], .ok ()) fun _ =>
      Step.map u.rebuild (visitAll (walkAt visitor depth)
        (sites pointer (some schema) (some context) u))

variable {visitor : Visitor}

theorem nodeSchema_of_reaches (h : Reaches maxHops p q) :
    nodeSchema (some p.schema) (some p.context) =
      .ok (some q.schema, some (inside q)) := by
  rw [nodeSchema, effective, follow_of_reaches h]
  rfl

theorem nodeSchema_of_stuck {reference : String} (h : Stuck maxHops p reference) :
    nodeSchema (some p.schema) (some p.context) = .error reference := by
  rw [nodeSchema, effective, follow_of_stuck h]
  rfl

/-- Under a context there is no reference left in the schema of a node, and the
children are under a context again. -/
theorem plain_of_nodeSchema {schema found : Option Value} {c : κ}
    {context : Option κ}
    (h : nodeSchema schema (some c) = .ok (found, context)) :
    (∀ s ∈ found, Schema.reference? s = none) ∧ ∃ d, context = some d := by
  cases schema with
  | none =>
      cases h
      exact ⟨nofun, c, rfl⟩
  | some schema =>
      rcases reaches_or_stuck maxHops (⟨c, schema⟩ : Target κ) with
        ⟨q, hreaches⟩ | ⟨reference, hstuck⟩
      · cases (nodeSchema_of_reaches hreaches).symm.trans h
        obtain ⟨n, -, -, hplain⟩ := hreaches
        refine ⟨fun s hs => ?_, _, rfl⟩
        cases hs
        exact hplain
      · cases (nodeSchema_of_stuck hstuck).symm.trans h

omit [SchemaContext κ] in
theorem context_of_mem_sites {pointer : Pointer} {schema : Option Value}
    {context : Option κ} {v : Value} {t : Site κ}
    (h : t ∈ sites pointer schema context v) : t.context = context := by
  obtain ⟨b, -, rfl⟩ := List.mem_map.1 h
  rfl

theorem plain_calls (depth : Nat) {s : Site κ} {c : κ} (hs : s.context = some c) :
    ∀ call ∈ (walkAt visitor depth s).1, ∀ schema ∈ call.schema,
      Schema.reference? schema = none := by
  induction depth generalizing s c with
  | zero => nofun
  | succ depth ih =>
      intro call hcall schema hschema
      obtain ⟨_, _, hwalk⟩ | ⟨found, context, e, hfound, _, hwalk⟩ |
          ⟨first, u, below, hopens⟩ := walkAt_cases visitor s
      · rw [hwalk] at hcall
        cases hcall
      · rw [hwalk] at hcall
        cases List.mem_singleton.1 hcall
        rw [hs] at hfound
        exact (plain_of_nodeSchema hfound).1 schema hschema
      · obtain ⟨entered, hentered, htrace⟩ :=
          visitAll_trace (walkAt visitor depth) below
        rw [walkAt_of_opens hopens, htrace] at hcall
        cases hopens with
        | intro hfound _ =>
            rw [hs] at hfound
            obtain ⟨hplain, d, hd⟩ := plain_of_nodeSchema hfound
            rcases List.mem_cons.1 hcall with rfl | hbelow
            · exact hplain schema hschema
            · obtain ⟨t, ht, hcall⟩ := List.mem_flatMap.1 hbelow
              have hcontext := context_of_mem_sites (hentered.subset ht)
              exact ih (hcontext.trans hd) call hcall schema hschema

/-- A walk under a context follows the chain of references of each node. If it
ends, after at most `maxHops` links, in a schema without one, the visitor is
called with this schema, and the walk goes on in the context inside. If it is
stuck, the walk fails with the reference and the node, and a chain that is
longer or goes in a circle is stuck at the reference after `maxHops` links. So
no visitor ever sees a reference. -/
theorem walk_follows_chain (visitor : Visitor) (v : Value) (pointer : Pointer)
    (schema : Value) (c : κ) :
    ((∃ q, Reaches maxHops ⟨c, schema⟩ q) ∨
      ∃ reference, Stuck maxHops ⟨c, schema⟩ reference) ∧
    (∀ q, Reaches maxHops ⟨c, schema⟩ q → ∀ depth,
      walk visitor (depth + 1) v pointer (some schema) (some c) =
        visited visitor depth v pointer q.schema (inside q)) ∧
    (∀ reference, Stuck maxHops ⟨c, schema⟩ reference → ∀ depth,
      walk visitor (depth + 1) v pointer (some schema) (some c) =
        ([], .error (.failure (.unresolved reference pointer.text)))) ∧
    (∀ n q, Chain n ⟨c, schema⟩ q →
      maxHops < n ∨ (∃ k, Chain (k + 1) q q) →
      ∃ r reference, Chain maxHops ⟨c, schema⟩ r ∧
        Schema.reference? r.schema = some reference ∧
        Stuck maxHops ⟨c, schema⟩ reference) ∧
    ∀ start depth, ∀ call ∈ (walk visitor depth v pointer start (some c)).1,
      ∀ s ∈ call.schema, Schema.reference? s = none := by
  have hwalk : ∀ depth, walk visitor depth v pointer (some schema) (some c) =
      walkAt visitor depth ⟨v, pointer, some schema, some c⟩ := fun _ => rfl
  refine ⟨reaches_or_stuck maxHops _, fun q hq depth => ?_,
    fun reference hstuck depth => ?_, fun n q h hlong => ?_,
    fun start depth => ?_⟩
  · rw [hwalk, walk_succ, nodeSchema_of_reaches hq]
    rfl
  · rw [hwalk, walk_succ, nodeSchema_of_stuck hstuck]
  · obtain ⟨l, hl, hchain⟩ : ∃ l, maxHops < l ∧ Chain l ⟨c, schema⟩ q := by
      rcases hlong with hlong | ⟨k, hcircle⟩
      · exact ⟨n, hlong, h⟩
      · exact h.circle hcircle maxHops
    obtain ⟨r, reference, hr, href⟩ := hchain.at_reference hl
    exact ⟨r, reference, hr, href, .tooMany hr href⟩
  · have hstart : walk visitor depth v pointer start (some c) =
        walkAt visitor depth ⟨v, pointer, start, some c⟩ := rfl
    rw [hstart]
    exact plain_calls depth rfl

/-- A definition that refers to the one of a number. -/
def rung (n : Nat) : Value :=
  .object [("$ref", .string ("#/" ++ Pointer.indexToken n))]

/-- A schema from which `n + 1` references lead to the empty one. -/
def ladder (n : Nat) : Value :=
  .object (("$ref", .string ("#/" ++ Pointer.indexToken n)) ::
    ("0", .object []) ::
    (List.range n).map fun k => (Pointer.indexToken (k + 1), rung k))

/-- `maxHops` references are followed, and one more is an error. -/
example :
    (effective (ladder 31) (some (Validator.lenientContext (ladder 31)))).map
        Prod.fst = .ok (.object []) ∧
      (effective (ladder 32) (some (Validator.lenientContext (ladder 32)))).map
        Prod.fst = .error "#/0" :=
  ⟨rfl, rfl⟩

end SchemaPipeline.Walk
