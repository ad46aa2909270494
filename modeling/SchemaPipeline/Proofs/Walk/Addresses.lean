import SchemaPipeline.Proofs.Pointer.Index
import SchemaPipeline.Proofs.Pointer.Text
import SchemaPipeline.Proofs.Walk.Order

/-!
# One pointer to each node

A walk names nodes by going down: it puts the key of a member or the index of an
element behind the pointer of the parent. Resolution reads a pointer the other
way, token by token, and decides from the value at hand whether a token is a key
or an index. `child?_eq_some_iff` says that the two agree on a single step, and
`mem_nodes_iff` that they agree on the whole way: the nodes of a value are what
pointers lead to, each under its own pointer.

A visitor that changes nothing is called at the nodes of the value
(`mem_nodes_of_call`), at all of them if the walk succeeds (`calls_eq_nodes`).
So the pointers it is given are those that resolve, and no two of them lead to
one place.
-/

namespace SchemaPipeline

namespace Value

/-- The children of a value with their tokens. -/
def entries : Value → List (String × Value)
  | .object ms => ms
  | .array xs => xs.zipIdx.map fun x => (Pointer.indexToken x.2, x.1)
  | _ => []

theorem child_of_mem_entries {v w : Value} {token : String}
    (h : (token, w) ∈ v.entries) : w ∈ v.children := by
  cases v with
  | object ms => exact List.mem_map.2 ⟨_, h, rfl⟩
  | array xs =>
      obtain ⟨⟨x, i⟩, hmem, heq⟩ := List.mem_map.1 h
      cases heq
      exact List.fst_mem_of_mem_zipIdx hmem
  | _ => cases h

end Value

/-! ## Resolution -/

namespace Pointer

/-- A token leads to a child exactly when it is the token of this child. -/
theorem child?_eq_some_iff {v w : Value} (h : v.Proper) {token : String} :
    child? v token = some w ↔ (token, w) ∈ v.entries := by
  cases v with
  | object ms => exact ⟨Members.mem_of_find?, Members.find?_of_mem h.1⟩
  | array xs =>
      rw [child?, Option.bind_eq_some_iff, Value.entries, List.mem_map]
      constructor
      · rintro ⟨i, hi, hw⟩
        rw [index?_eq_some_iff] at hi
        exact ⟨(w, i), List.mk_mem_zipIdx_iff_getElem?.2 hw, by rw [hi]⟩
      · rintro ⟨⟨x, i⟩, hmem, heq⟩
        cases heq
        exact ⟨i, index?_indexToken i, List.mk_mem_zipIdx_iff_getElem?.1 hmem⟩
  | _ => exact ⟨nofun, nofun⟩

end Pointer

/-! ## Nodes -/

mutual

theorem Value.length_nodes (pointer : Pointer) :
    ∀ v : Value, (v.nodes pointer).length = v.size
  | .null | .bool _ | .number _ | .string _ => rfl
  | .array xs => by
      rw [Value.nodes, List.length_cons, length_itemNodes pointer 0 xs,
        Value.size, Nat.add_comm]
  | .object ms => by
      rw [Value.nodes, List.length_cons, length_memberNodes pointer ms,
        Value.size, Nat.add_comm]

theorem length_itemNodes (pointer : Pointer) :
    ∀ (i : Nat) (xs : List Value), (itemNodes pointer i xs).length = sizeItems xs
  | _, [] => rfl
  | i, v :: rest => by
      rw [itemNodes, List.length_append, Value.length_nodes _ v,
        length_itemNodes pointer (i + 1) rest, sizeItems]

theorem length_memberNodes (pointer : Pointer) :
    ∀ ms : List (String × Value),
      (memberNodes pointer ms).length = sizeMembers ms
  | [] => rfl
  | (k, v) :: rest => by
      rw [memberNodes, List.length_append, Value.length_nodes _ v,
        length_memberNodes pointer rest, sizeMembers]

end

namespace Walk

variable {κ : Type}

/-- The children of a node are visited with their tokens. -/
theorem map_sites (pointer : Pointer) (schema : Option Value)
    (context : Option κ) (v : Value) :
    (sites pointer schema context v).map (fun t => (t.pointer, t.value)) =
      v.entries.map fun e => (pointer.push e.1, e.2) := by
  cases v with
  | object ms =>
      rw [sites_object, List.map_map]
      rfl
  | array xs =>
      rw [sites_array, List.map_map, Value.entries, List.map_map]
      rfl
  | _ => rfl

theorem nodes_entries (pointer : Pointer) (v : Value) :
    v.nodes pointer =
      (pointer, v) :: v.entries.flatMap fun e => e.2.nodes (pointer.push e.1) := by
  have hbelow : ((sites pointer none (none : Option Empty) v).flatMap fun t =>
      t.value.nodes t.pointer) =
        v.entries.flatMap fun e => e.2.nodes (pointer.push e.1) := by
    have hsites := congrArg (fun l => l.flatMap fun e : Pointer × Value => e.2.nodes e.1)
      (map_sites pointer none (none : Option Empty) v)
    simpa only [List.flatMap_map] using hsites
  rw [nodes_eq pointer none (none : Option Empty) v, hbelow]

theorem mem_nodes_of_descend {v w : Value} (h : v.Proper) {pointer : Pointer}
    {tokens : List String} (hw : Pointer.descend tokens v = some w) :
    (⟨pointer.tokens ++ tokens⟩, w) ∈ v.nodes pointer := by
  induction tokens generalizing v pointer with
  | nil =>
      cases hw
      rw [nodes_entries, List.append_nil]
      exact List.mem_cons_self
  | cons token rest ih =>
      obtain ⟨u, hu, hw⟩ := Option.bind_eq_some_iff.1 hw
      have hmem := (Pointer.child?_eq_some_iff h).1 hu
      have hchild : u.Proper := h.child (Value.child_of_mem_entries hmem)
      have hbelow : (⟨(pointer.push token).tokens ++ rest⟩, w) ∈
          u.nodes (pointer.push token) := ih hchild hw
      rw [Pointer.push, List.append_assoc] at hbelow
      rw [nodes_entries]
      exact List.mem_cons_of_mem _ (List.mem_flatMap.2 ⟨_, hmem, hbelow⟩)

theorem descend_of_mem_nodes {v w : Value} (h : v.Proper) {pointer q : Pointer}
    (hmem : (q, w) ∈ v.nodes pointer) :
    ∃ tokens, q = ⟨pointer.tokens ++ tokens⟩ ∧
      Pointer.descend tokens v = some w := by
  induction hsize : v.size using Nat.strongRecOn generalizing v pointer with
  | ind size ih =>
      rw [nodes_entries] at hmem
      rcases List.mem_cons.1 hmem with heq | hbelow
      · cases heq
        exact ⟨[], by rw [List.append_nil], rfl⟩
      · obtain ⟨⟨token, u⟩, hentry, hmem⟩ := List.mem_flatMap.1 hbelow
        have hchild := Value.child_of_mem_entries hentry
        obtain ⟨rest, hq, hw⟩ :=
          ih u.size (hsize ▸ size_child hchild) (h.child hchild) hmem rfl
        refine ⟨token :: rest, ?_, ?_⟩
        · rw [hq, Pointer.push, List.append_assoc]
          rfl
        · rw [Pointer.descend, (Pointer.child?_eq_some_iff h).2 hentry]
          exact hw

/-- The nodes of a value are what pointers lead to. -/
theorem mem_nodes_iff {v w : Value} (h : v.Proper) {p : Pointer} :
    (p, w) ∈ v.nodes .root ↔ p.resolve v = some w := by
  constructor
  · intro hmem
    obtain ⟨tokens, rfl, hw⟩ := descend_of_mem_nodes h hmem
    exact hw
  · intro hw
    have hmem : (⟨Pointer.root.tokens ++ p.tokens⟩, w) ∈ v.nodes .root :=
      mem_nodes_of_descend h hw
    exact hmem

/-! ## Walks that change nothing -/

variable [SchemaContext κ] {visitor : Visitor}

/-- The visitor is called at nodes of the value, with what is there. -/
theorem mem_nodes_of_call (hidle : visitor.Idle) {depth : Nat} {s : Site κ}
    {call : Call} (h : call ∈ (walkAt visitor depth s).1) :
    (call.pointer, call.value) ∈ s.value.nodes s.pointer := by
  induction depth generalizing s with
  | zero => cases h
  | succ depth ih =>
      obtain ⟨_, _, hwalk⟩ | ⟨_, _, _, _, _, hwalk⟩ | ⟨first, u, below, hopens⟩ :=
        walkAt_cases visitor s
      · rw [hwalk] at h
        cases h
      · rw [hwalk] at h
        cases List.mem_singleton.1 h
        rw [nodes_entries]
        exact List.mem_cons_self
      · obtain ⟨entered, hentered, htrace⟩ :=
          visitAll_trace (walkAt visitor depth) below
        rw [walkAt_of_opens hopens, htrace] at h
        have hidentity := hopens.idle hidle
        cases hopens with
        | @intro schema context _ _ _ =>
            subst hidentity
            rw [nodes_eq s.pointer schema context]
            rcases List.mem_cons.1 h with rfl | hbelow
            · exact List.mem_cons_self
            · obtain ⟨t, ht, hcall⟩ := List.mem_flatMap.1 hbelow
              exact List.mem_cons_of_mem _
                (List.mem_flatMap.2 ⟨t, hentered.subset ht, ih hcall⟩)

/-- If the walk succeeds it has called the visitor at all nodes. -/
theorem calls_eq_nodes (hidle : visitor.Idle) {depth : Nat} {s : Site κ}
    {out : Value} (h : (walkAt visitor depth s).2 = .ok out) :
    (walkAt visitor depth s).1.map (fun c => (c.pointer, c.value)) =
      s.value.nodes s.pointer := by
  induction depth generalizing s out with
  | zero => cases h
  | succ depth ih =>
      obtain ⟨call, u, below, outs, hopens, hresults, -, -, htrace⟩ := walkAt_ok h
      have hidentity := hopens.idle hidle
      cases hopens with
      | @intro schema context _ _ _ =>
          subst hidentity
          have hboth := hresults.imp
            fun t w hw => And.intro (Exists.intro w hw : ∃ w, _) hw
          have hok := ((List.forall₂_and_left _ _).1 hboth).1
          rw [htrace, List.map_cons, List.map_flatMap, nodes_eq s.pointer schema context]
          congr 1
          refine List.flatMap_congr fun t ht => ?_
          obtain ⟨w, hw⟩ := hok t ht
          exact ih hw

/-- The pointers that a visitor is given which changes nothing. They are
distinct, and each of them resolves to what the visitor has seen, also once it
has been written and read again. If the walk succeeds, as it does where no
schema is known, there are as many as nodes, and every pointer that resolves is
one of them. An element is selected by its index in plain decimal alone. -/
theorem run_addresses (hidle : visitor.Idle) {v : Value} (hproper : v.Proper)
    (depth : Nat) (schema : Option Value) (context : Option κ) :
    ((run visitor depth v schema context).1.map Call.pointer).Nodup ∧
    (∀ c ∈ (run visitor depth v schema context).1,
      c.pointer.resolve v = some c.value ∧
      (Pointer.parse c.pointer.text).bind (·.resolve v) = some c.value) ∧
    (∀ out, (run visitor depth v schema context).2 = .ok out →
      (run visitor depth v schema context).1.length = v.size ∧
      ∀ p w, p.resolve v = some w ↔
        ∃ c ∈ (run visitor depth v schema context).1,
          c.pointer = p ∧ c.value = w) ∧
    (schema = none → v.size ≤ depth →
      (run visitor depth v schema context).2 = .ok v) ∧
    ∀ token i, Pointer.index? token = some i ↔ token = Pointer.indexToken i := by
  let s : Site κ := ⟨v, .root, schema, context⟩
  have hkeeps : visitor.KeepsProper := by
    intro v pointer schema u hv hu
    rw [hidle] at hu
    cases hu
    exact hv
  refine ⟨nodup_calls (s := s) hkeeps hproper, ?_, ?_, ?_,
    fun token i => Pointer.index?_eq_some_iff⟩
  · intro c hc
    have hresolve : c.pointer.resolve v = some c.value :=
      (mem_nodes_iff hproper).1 (mem_nodes_of_call (s := s) hidle hc)
    exact ⟨hresolve, by rw [Pointer.parse_text]; exact hresolve⟩
  · intro out hout
    have hcalls := calls_eq_nodes (s := s) hidle hout
    refine ⟨?_, fun p w => ?_⟩
    · rw [← Value.length_nodes .root v, ← hcalls, List.length_map]
      rfl
    · rw [← mem_nodes_iff hproper, ← hcalls, List.mem_map]
      simp only [Prod.mk.injEq]
      rfl
  · rintro rfl hdepth
    exact walk_none hidle hdepth .root context

/-- Keys that look like indices or like escapes, and an empty one. -/
def awkward : Value :=
  .object [("0", .array [.null, .bool true]), ("", .null),
    ("~1", .object [("01", .null), ("a/b", .array [])])]

/-- The visitor that returns what it is given. -/
def onlooker : Visitor := ⟨"onlooker", fun v _ _ => .ok v⟩

theorem run_addresses_awkward :
    onlooker.Idle ∧ awkward.Proper ∧
    (run onlooker 8 awkward none (none : Option Empty)).1.map (·.pointer.text) =
      ["", "/0", "/0/0", "/0/1", "/", "/~01", "/~01/01", "/~01/a~1b"] ∧
    ∀ p w, p.resolve awkward = some w ↔
      ∃ c ∈ (run onlooker 8 awkward none (none : Option Empty)).1,
        c.pointer = p ∧ c.value = w := by
  have hidle : onlooker.Idle := fun _ _ _ => rfl
  have hproper : awkward.Proper := by
    simp [awkward, Value.Proper, properMembers, properItems]
  obtain ⟨-, -, hresolves, hends, -⟩ :=
    run_addresses hidle hproper 8 none (none : Option Empty)
  refine ⟨hidle, hproper, by decide, ?_⟩
  exact (hresolves awkward (hends rfl (by decide))).2

end Walk

end SchemaPipeline
