import SchemaPipeline.Proofs.Walk.Distinct
import SchemaPipeline.Proofs.Walk.Places

/-!
# What a walk calls, and in which order

The tree that a walk goes through comes into being on the way: an answer decides
which children there are. So the calls are compared with the tree that comes out.
`walkAt_answered` matches them one by one with the nodes of the result, each
node before the ones below it, members and elements in their order.

A walk that fails has no result to compare with. `Leads` says which calls a walk
makes before it comes to a site: one at each node above, and those of the walks
over the siblings in front, which have all succeeded. `walkAt_failure` says that
a walk fails at such a site, with no call there if its schema is not found, and
with one call, the last, if the visitor fails.

No pointer is called twice in either case (`nodup_calls`), as long as the keys
of an object are distinct. An answer therefore never depends on an earlier call
at the same place, and a visitor that counts its calls or keeps what it has seen
is, within one walk, no different from one that looks at the place.
-/

namespace SchemaPipeline

/-! ## Nodes of a value -/

mutual

/-- The nodes of a value with their pointers, each before those below it. -/
def Value.nodes (pointer : Pointer) : Value → List (Pointer × Value)
  | .array xs => (pointer, .array xs) :: itemNodes pointer 0 xs
  | .object ms => (pointer, .object ms) :: memberNodes pointer ms
  | v => [(pointer, v)]

def itemNodes (pointer : Pointer) :
    Nat → List Value → List (Pointer × Value)
  | _, [] => []
  | i, v :: rest =>
    v.nodes (pointer.push (Pointer.indexToken i)) ++
      itemNodes pointer (i + 1) rest

def memberNodes (pointer : Pointer) :
    List (String × Value) → List (Pointer × Value)
  | [] => []
  | (k, v) :: rest => v.nodes (pointer.push k) ++ memberNodes pointer rest

end

namespace Walk

variable {κ : Type}

theorem nodes_eq (pointer : Pointer) (schema : Option Value)
    (context : Option κ) (v : Value) :
    v.nodes pointer =
      (pointer, v) :: (sites pointer schema context v).flatMap fun t =>
        t.value.nodes t.pointer := by
  cases v with
  | object ms =>
      rw [Value.nodes, sites_object, List.flatMap_map]
      congr 1
      induction ms with
      | nil => rfl
      | cons m rest ih => rw [memberNodes, List.flatMap_cons, ih]
  | array xs =>
      rw [Value.nodes, sites_array, List.flatMap_map]
      congr 1
      suffices h : ∀ i, itemNodes pointer i xs =
          (xs.zipIdx i).flatMap fun x =>
            x.1.nodes (pointer.push (Pointer.indexToken x.2)) from h 0
      induction xs with
      | nil => exact fun i => rfl
      | cons x rest ih =>
          intro i
          rw [itemNodes, List.zipIdx_cons, List.flatMap_cons, ih]
  | _ => rfl

/-! ## Walks that succeed -/

/-- The call was answered by what is at the node, but for its children. -/
def Answered (visitor : Visitor) (call : Call) (node : Pointer × Value) : Prop :=
  call.pointer = node.1 ∧
    ∃ u, visitor.visit call.value call.pointer call.schema = .ok u ∧
      u.SameNode node.2

def Accepted (visitor : Visitor) (call : Call) : Prop :=
  ∃ u, visitor.visit call.value call.pointer call.schema = .ok u

variable [SchemaContext κ] {visitor : Visitor}

/-- The calls of a walk that succeeds are those of the nodes of its result. -/
theorem walkAt_answered {depth : Nat} {s : Site κ} {out : Value}
    (h : (walkAt visitor depth s).2 = .ok out) :
    List.Forall₂ (Answered visitor) (walkAt visitor depth s).1
      (out.nodes s.pointer) := by
  induction depth generalizing s out with
  | zero => cases h
  | succ depth ih =>
      obtain ⟨call, u, below, outs, hopens, hresults, rfl, hlength, htrace⟩ :=
        walkAt_ok h
      have hvisit := hopens.visit
      have hsame := Value.sameNode_rebuild hlength
      rw [htrace]
      cases hopens with
      | @intro schema context _ hschema _ =>
          rw [nodes_eq s.pointer schema context]
          refine .cons ⟨hvisit.1, u, hvisit.2, hsame⟩ ?_
          have hchildren : List.Forall₂
              (fun t t' : Site κ => t'.pointer = t.pointer ∧
                (walkAt visitor depth t).2 = .ok t'.value)
              (sites s.pointer schema context u)
              (sites s.pointer schema context (u.rebuild outs)) := by
            rw [sites_rebuild s.pointer schema context hlength]
            exact forall₂_zipWith_left hresults fun _ _ hw => ⟨rfl, hw⟩
          have hcalls : ∀ t t' : Site κ, t'.pointer = t.pointer ∧
              (walkAt visitor depth t).2 = .ok t'.value →
              List.Forall₂ (Answered visitor) (walkAt visitor depth t).1
                (t'.value.nodes t'.pointer) := by
            rintro t t' ⟨hpointer, hw⟩
            rw [hpointer]
            exact ih hw
          exact List.rel_flatMap hchildren hcalls

theorem accepted_of_ok {depth : Nat} {s : Site κ} {out : Value}
    (h : (walkAt visitor depth s).2 = .ok out) :
    ∀ c ∈ (walkAt visitor depth s).1, Accepted visitor c := by
  have hboth : List.Forall₂
      (fun c node => Accepted visitor c ∧ Answered visitor c node)
      (walkAt visitor depth s).1 (out.nodes s.pointer) :=
    (walkAt_answered h).imp fun _ _ hc => ⟨hc.2.imp fun _ hu => hu.1, hc⟩
  exact ((List.forall₂_and_left _ _).1 hboth).1

/-! ## Walks that fail -/

/-- The calls that are made before a walk comes to a site: at the nodes above,
and in the walks over the siblings before these, which have succeeded. -/
inductive Leads (visitor : Visitor) : Site κ → Trace → Site κ → Prop where
  | here (s : Site κ) : Leads visitor s [] s
  | child {s t r : Site κ} {call : Call} {u : Value} {before after : List (Site κ)}
      {depth : Nat} {trace : Trace}
      (hopens : Opens visitor s call u (before ++ t :: after))
      (hbefore : ∀ b ∈ before, ∃ out, (walkAt visitor depth b).2 = .ok out)
      (h : Leads visitor t trace r) :
      Leads visitor s
        (call :: (before.flatMap fun b => (walkAt visitor depth b).1) ++ trace) r

/-- What fails at a site, with the calls that are made there: none if its schema
is not found, and one if the visitor fails. -/
inductive Fails (visitor : Visitor) (r : Site κ) : Trace → TransformError → Prop where
  | unresolved {reference : String}
      (hschema : nodeSchema r.schema r.context = .error reference) :
      Fails visitor r [] (.unresolved reference r.pointer.text)
  | refused {schema : Option Value} {context : Option κ} {e : TransformError}
      (hschema : nodeSchema r.schema r.context = .ok (schema, context))
      (hvisit : visitor.visit r.value r.pointer schema = .error e) :
      Fails visitor r [⟨r.pointer, r.value, schema⟩] e

theorem Leads.accepted {s r : Site κ} {trace : Trace}
    (h : Leads visitor s trace r) : ∀ c ∈ trace, Accepted visitor c := by
  induction h with
  | here => exact fun c hc => nomatch hc
  | child hopens hbefore _ ih =>
      intro c hc
      rcases List.mem_append.1 hc with hc | hc
      · rcases List.mem_cons.1 hc with rfl | hc
        · exact ⟨_, hopens.visit.2⟩
        · obtain ⟨b, hb, hcall⟩ := List.mem_flatMap.1 hc
          obtain ⟨out, hout⟩ := hbefore b hb
          exact accepted_of_ok hout c hcall
      · exact ih c hc

theorem Leads.above {s r : Site κ} {trace : Trace}
    (h : Leads visitor s trace r) : s.pointer.Above r.pointer := by
  induction h with
  | here s => exact .refl _
  | child hopens _ _ ih =>
      exact (hopens.above (List.mem_append_right _ List.mem_cons_self)).trans ih

/-- Nothing is called at a site before the walk comes to it. -/
theorem Leads.ne {s r : Site κ} {trace : Trace} (h : Leads visitor s trace r)
    (hkeeps : visitor.KeepsProper) (hproper : s.value.Proper) :
    ∀ c ∈ trace, c.pointer ≠ r.pointer := by
  induction h with
  | here => exact fun c hc => nomatch hc
  | @child s t r call u before after depth trace hopens hbefore h ih =>
      have hmem : t ∈ before ++ t :: after :=
        List.mem_append_right _ List.mem_cons_self
      intro c hc
      rcases List.mem_append.1 hc with hc | hc
      · rcases List.mem_cons.1 hc with rfl | hc
        · rw [hopens.visit.1]
          exact hopens.ne hmem h.above
        · -- a sibling in front: nothing goes on from both
          obtain ⟨b, hb, hcall⟩ := List.mem_flatMap.1 hc
          obtain ⟨-, -, hapart⟩ :=
            List.pairwise_append.1 (hopens.apart hkeeps hproper)
          intro heq
          exact hapart b hb t List.mem_cons_self _ (above_of_call hcall)
            (heq ▸ h.above)
      · exact ih (hopens.proper hkeeps hproper hmem) c hc

/-- A walk that fails comes to a site where something fails, and ends there. -/
theorem walkAt_failure {depth : Nat} {s : Site κ} {e : TransformError}
    (h : (walkAt visitor depth s).2 = .error (.failure e)) :
    ∃ before r last, (walkAt visitor depth s).1 = before ++ last ∧
      Leads visitor s before r ∧ Fails visitor r last e := by
  induction depth generalizing s with
  | zero => cases h
  | succ depth ih =>
      obtain ⟨reference, hschema, hwalk⟩ |
        ⟨schema, context, e', hschema, hvisit, hwalk⟩ |
        ⟨call, u, below, hopens⟩ := walkAt_cases visitor s
      · rw [hwalk] at h ⊢
        cases h
        exact ⟨[], s, _, rfl, .here s, .unresolved hschema⟩
      · rw [hwalk] at h ⊢
        cases h
        exact ⟨[], s, _, rfl, .here s, .refused hschema hvisit⟩
      · rw [walkAt_of_opens hopens] at h ⊢
        cases hbelow : (visitAll (walkAt visitor depth) below).2 with
        | ok outs =>
            rw [hbelow] at h
            cases h
        | error stop =>
            rw [hbelow] at h
            cases h
            obtain ⟨before, t, after, rfl, hbefore, ht, htrace⟩ :=
              visitAll_error hbelow
            obtain ⟨more, r, last, hmore, hleads, hfails⟩ := ih ht
            refine ⟨_, r, last, ?_, .child hopens hbefore hleads, hfails⟩
            rw [htrace, hmore, List.cons_append, List.cons_append,
              List.append_assoc]

/-! ## Walks that change nothing -/

theorem Opens.idle {s : Site κ} {call : Call} {u : Value} {below : List (Site κ)}
    (h : Opens visitor s call u below) (hidle : visitor.Idle) : u = s.value := by
  cases h with
  | intro _ hvisit => exact (Except.ok.inj ((hidle _ _ _).symm.trans hvisit)).symm

theorem walkAt_idle (hidle : visitor.Idle) {depth : Nat} {s : Site κ}
    {out : Value} (h : (walkAt visitor depth s).2 = .ok out) : out = s.value := by
  induction depth generalizing s out with
  | zero => cases h
  | succ depth ih =>
      obtain ⟨call, u, below, outs, hopens, hresults, rfl, -, -⟩ := walkAt_ok h
      have hsame : List.Forall₂ (fun t w => t.value = w) below outs :=
        hresults.imp fun _ _ hw => (ih hw).symm
      rw [← List.forall₂_map_left_iff, hopens.map_value,
        List.forall₂_eq_eq_eq] at hsame
      rw [← hsame, Value.rebuild_children, hopens.idle hidle]

theorem size_child {v w : Value} (h : w ∈ v.children) : w.size < v.size := by
  cases v with
  | object ms =>
      obtain ⟨m, hm, rfl⟩ := List.mem_map.1 h
      exact size_lt_of_mem hm
  | array xs =>
      obtain ⟨i, hi, rfl⟩ := List.getElem_of_mem h
      exact size_lt_of_getElem? (List.getElem?_eq_getElem hi)
  | _ => cases h

/-- A walk that changes nothing goes no deeper than the value. -/
theorem walkAt_idle_ends (hidle : visitor.Idle) {depth : Nat} {s : Site κ}
    (hdepth : s.value.size ≤ depth) :
    (walkAt visitor depth s).2 ≠ .error .exhausted := by
  induction depth generalizing s with
  | zero =>
      have := size_pos s.value
      omega
  | succ depth ih =>
      obtain ⟨_, _, hwalk⟩ | ⟨_, _, _, _, _, hwalk⟩ | ⟨call, u, below, hopens⟩ :=
        walkAt_cases visitor s
      · rw [hwalk]
        exact fun h => nomatch h
      · rw [hwalk]
        exact fun h => nomatch h
      · rw [walkAt_of_opens hopens]
        intro h
        cases hbelow : (visitAll (walkAt visitor depth) below).2 with
        | ok outs =>
            rw [hbelow] at h
            cases h
        | error stop =>
            rw [hbelow] at h
            cases h
            obtain ⟨before, t, after, rfl, -, ht, -⟩ := visitAll_error hbelow
            have hsize := size_child
              (hopens.child (List.mem_append_right before List.mem_cons_self))
            rw [hopens.idle hidle] at hsize
            exact ih (by omega) ht

/-! ## The whole walk -/

/-- The order of the calls of a walk, for every visitor. If the walk succeeds,
they are those of the nodes of the result, and each node is what was answered
there. If it fails, all calls but that of the failing site have been accepted,
none was at that site, and there is no call after it. No place is visited
twice. A visitor that changes nothing leaves the value as it is. -/
theorem run_in_order (visitor : Visitor) (depth : Nat) (v : Value)
    (schema : Option Value) (context : Option κ) :
    (∀ out, (run visitor depth v schema context).2 = .ok out →
      List.Forall₂ (Answered visitor) (run visitor depth v schema context).1
        (out.nodes .root)) ∧
    (∀ e, (run visitor depth v schema context).2 = .error (.failure e) →
      ∃ before r last,
        (run visitor depth v schema context).1 = before ++ last ∧
        Leads visitor ⟨v, .root, schema, context⟩ before r ∧
        Fails visitor r last e ∧
        (∀ c ∈ before, Accepted visitor c) ∧
        (visitor.KeepsProper → v.Proper → ∀ c ∈ before, c.pointer ≠ r.pointer)) ∧
    (visitor.KeepsProper → v.Proper →
      ((run visitor depth v schema context).1.map Call.pointer).Nodup) ∧
    (visitor.Idle →
      (∀ out, (run visitor depth v schema context).2 = .ok out → out = v) ∧
      (v.size ≤ depth →
        (run visitor depth v schema context).2 ≠ .error .exhausted)) := by
  let s : Site κ := ⟨v, .root, schema, context⟩
  refine ⟨fun out h => walkAt_answered (s := s) h, ?_,
    fun hkeeps hproper => nodup_calls (s := s) hkeeps hproper, fun hidle =>
      ⟨fun out h => walkAt_idle (s := s) hidle h,
        fun hdepth => walkAt_idle_ends (s := s) hidle hdepth⟩⟩
  intro e h
  obtain ⟨before, r, last, htrace, hleads, hfails⟩ := walkAt_failure (s := s) h
  exact ⟨before, r, last, htrace, hleads, hfails, hleads.accepted, hleads.ne⟩

end Walk

end SchemaPipeline
