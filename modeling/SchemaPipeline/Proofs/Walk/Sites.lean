import SchemaPipeline.Proofs.Lists
import SchemaPipeline.Walk.Basic

/-!
# Nodes and what is below them

A walk goes through members and through elements in the same way: a child has a
value, a place, a schema and a context, and the children are walked one after
the other. Here the children of a node are one list of sites, and `walk_succ`
says that a walk is a call of the visitor and then the walks of the sites below
its answer, whatever kind of value that is. `walkAt_cases` takes a walk apart
once; what is proved about walks goes by induction on the depth and these three
cases.

What a value is at its node is apart from what is below: `rebuild` puts other
children in, and `SameNode` relates values that differ in their children only.

The bound on the depth is bookkeeping. `walkAt_mono` says that a walk that has
ended within its bound does the same within every larger one.
-/

namespace SchemaPipeline

/-! ## Values at a node -/

namespace Value

/-- The same but for what is below: objects with the same keys in the same
order, arrays of one length, or one scalar. -/
def SameNode : Value → Value → Prop
  | .object ms, .object ns => Members.keys ms = Members.keys ns
  | .array xs, .array ys => xs.length = ys.length
  | v, w => v = w

def children : Value → List Value
  | .object ms => ms.map Prod.snd
  | .array xs => xs
  | _ => []

/-- The value with other children, of which there have to be as many. -/
def rebuild : Value → List Value → Value
  | .object ms, vs => .object ((Members.keys ms).zip vs)
  | .array _, vs => .array vs
  | v, _ => v

theorem rebuild_children (v : Value) : v.rebuild v.children = v := by
  cases v with
  | object ms =>
      rw [children, rebuild, Members.keys]
      congr
      induction ms with
      | nil => rfl
      | cons m rest ih => rw [List.map_cons, List.map_cons, List.zip_cons_cons, ih]
  | _ => rfl

theorem sameNode_rebuild {v : Value} {vs : List Value}
    (h : vs.length = v.children.length) : v.SameNode (v.rebuild vs) := by
  cases v with
  | object ms =>
      have hlength : (Members.keys ms).length ≤ vs.length := by
        simp only [h, children, Members.keys, List.length_map, Nat.le_refl]
      exact (List.map_fst_zip hlength).symm
  | array xs => exact h.symm
  | _ => rfl

theorem children_rebuild {v : Value} {vs : List Value}
    (h : vs.length = v.children.length) : (v.rebuild vs).children = vs := by
  cases v with
  | object ms =>
      have hlength : vs.length ≤ (Members.keys ms).length := by
        simp only [h, children, Members.keys, List.length_map, Nat.le_refl]
      exact List.map_snd_zip hlength
  | array xs => rfl
  | _ => exact (List.length_eq_zero_iff.1 h).symm

theorem SameNode.rebuild_eq {v w : Value} (h : v.SameNode w) (vs : List Value) :
    w.rebuild vs = v.rebuild vs := by
  cases v with
  | object ms =>
      cases w with
      | object ns => exact congrArg (fun keys => Value.object (keys.zip vs)) h.symm
      | _ => cases h
  | array xs =>
      cases w with
      | array ys => rfl
      | _ => cases h
  | _ => cases w <;> first | rfl | cases h <;> rfl

end Value

namespace Walk

/-! ## Steps of a list, one after the other -/

theorem Step.map_map {α β γ : Type} (f : α → β) (g : β → γ) (s : Step α) :
    (s.map f).map g = s.map (g ∘ f) := by
  obtain ⟨trace, result⟩ := s
  cases result <;> rfl

theorem Step.map_andThen {α β γ : Type} (s : Step α) (f : α → Step β)
    (g : β → γ) : (s.andThen f).map g = s.andThen fun a => (f a).map g := by
  obtain ⟨trace, result⟩ := s
  cases result <;> rfl

def visitAll {α β : Type} (step : α → Step β) : List α → Step (List β)
  | [] => ([], .ok [])
  | a :: rest =>
    Step.andThen (step a) fun b => Step.map (b :: ·) (visitAll step rest)

section

variable {α β : Type} {step : α → Step β}

theorem visitAll_map {γ : Type} (f : γ → α) (cs : List γ) :
    visitAll step (cs.map f) = visitAll (step ∘ f) cs := by
  induction cs with
  | nil => rfl
  | cons c rest ih => rw [List.map_cons, visitAll, visitAll, ih]; rfl

theorem visitAll_cons_ok {a : α} {rest : List α} {b : β}
    (h : (step a).2 = .ok b) :
    visitAll step (a :: rest) =
      ((step a).1 ++ (visitAll step rest).1,
        (visitAll step rest).2.map (b :: ·)) := by
  rw [visitAll]
  cases hstep : step a with
  | mk trace result =>
      rw [hstep] at h
      cases h
      rfl

theorem visitAll_cons_error {a : α} {rest : List α} {e : Stop}
    (h : (step a).2 = .error e) :
    visitAll step (a :: rest) = ((step a).1, .error e) := by
  rw [visitAll]
  cases hstep : step a with
  | mk trace result =>
      rw [hstep] at h
      cases h
      rfl

/-- If all succeed, the results and the calls are those of each. -/
theorem visitAll_ok {as : List α} {bs : List β}
    (h : (visitAll step as).2 = .ok bs) :
    List.Forall₂ (fun a b => (step a).2 = .ok b) as bs ∧
      (visitAll step as).1 = as.flatMap fun a => (step a).1 := by
  induction as generalizing bs with
  | nil =>
      cases h
      exact ⟨.nil, rfl⟩
  | cons a rest ih =>
      cases ha : (step a).2 with
      | error e =>
          rw [visitAll_cons_error ha] at h
          cases h
      | ok b =>
          rw [visitAll_cons_ok ha] at h ⊢
          cases hrest : (visitAll step rest).2 with
          | error e =>
              rw [hrest] at h
              cases h
          | ok bs' =>
              rw [hrest] at h
              cases h
              obtain ⟨hresults, htrace⟩ := ih hrest
              exact ⟨.cons ha hresults, by rw [List.flatMap_cons, htrace]⟩

theorem visitAll_of_ok {as : List α} {bs : List β}
    (h : List.Forall₂ (fun a b => (step a).2 = .ok b) as bs) :
    (visitAll step as).2 = .ok bs := by
  induction h with
  | nil => rfl
  | cons ha _ ih =>
      rw [visitAll_cons_ok ha, ih]
      rfl

/-- If one fails, nothing is called after it. -/
theorem visitAll_error {as : List α} {e : Stop}
    (h : (visitAll step as).2 = .error e) :
    ∃ before a after, as = before ++ a :: after ∧
      (∀ b ∈ before, ∃ r, (step b).2 = .ok r) ∧ (step a).2 = .error e ∧
      (visitAll step as).1 =
        (before.flatMap fun b => (step b).1) ++ (step a).1 := by
  induction as with
  | nil => cases h
  | cons a rest ih =>
      cases ha : (step a).2 with
      | error e' =>
          rw [visitAll_cons_error ha] at h ⊢
          cases h
          exact ⟨[], a, rest, rfl, fun _ hb => (List.not_mem_nil hb).elim, ha, rfl⟩
      | ok b =>
          rw [visitAll_cons_ok ha] at h ⊢
          cases hrest : (visitAll step rest).2 with
          | ok bs =>
              rw [hrest] at h
              cases h
          | error e' =>
              rw [hrest] at h
              cases h
              obtain ⟨before, c, after, rfl, hbefore, hc, htrace⟩ := ih hrest
              refine ⟨a :: before, c, after, rfl, ?_, hc, ?_⟩
              · rintro x (_ | ⟨_, hx⟩)
                · exact ⟨b, ha⟩
                · exact hbefore x hx
              · rw [List.flatMap_cons, List.append_assoc, ← htrace]

/-- However it ends, the calls are those of a front part of the list. -/
theorem visitAll_trace (step : α → Step β) (as : List α) :
    ∃ entered : List α, entered <+: as ∧
      (visitAll step as).1 = entered.flatMap fun a => (step a).1 := by
  cases hresult : (visitAll step as).2 with
  | ok bs => exact ⟨as, List.prefix_refl as, (visitAll_ok hresult).2⟩
  | error e =>
      obtain ⟨before, a, after, rfl, -, -, htrace⟩ := visitAll_error hresult
      refine ⟨before ++ [a], ⟨after, List.append_assoc _ _ _⟩, ?_⟩
      rw [htrace, List.flatMap_append, List.flatMap_singleton]

theorem visitAll_congr {step' : α → Step β} {as : List α}
    (hsame : ∀ a ∈ as, (step a).2 ≠ .error .exhausted → step' a = step a)
    (h : (visitAll step as).2 ≠ .error .exhausted) :
    visitAll step' as = visitAll step as := by
  induction as with
  | nil => rfl
  | cons a rest ih =>
      have hrest := fun b hb => hsame b (List.mem_cons_of_mem _ hb)
      cases ha : (step a).2 with
      | error e =>
          rw [visitAll_cons_error ha] at h
          have heq := hsame a List.mem_cons_self (by simpa [ha] using h)
          rw [visitAll_cons_error ha, visitAll_cons_error (heq ▸ ha), heq]
      | ok b =>
          rw [visitAll_cons_ok ha] at h
          have heq := hsame a List.mem_cons_self (by simp [ha])
          have hmore := ih hrest fun he => h (by simp only [he, Except.map])
          rw [visitAll_cons_ok ha, visitAll_cons_ok (heq ▸ ha), heq, hmore]

theorem visitMembers_eq (child : String → Value → Step Value) (ms : Members) :
    visitMembers child ms =
      Step.map ((Members.keys ms).zip ·)
        (visitAll (fun m => child m.1 m.2) ms) := by
  induction ms with
  | nil => rfl
  | cons m rest ih =>
      obtain ⟨k, v⟩ := m
      rw [visitMembers, visitAll, ih, Step.map_andThen]
      congr 1
      funext w
      rw [Step.map_map, Step.map_map]
      rfl

theorem visitItems_eq (child : Nat → Value → Step Value) (i : Nat)
    (xs : List Value) :
    visitItems child i xs = visitAll (fun x => child x.2 x.1) (xs.zipIdx i) := by
  induction xs generalizing i with
  | nil => rfl
  | cons x rest ih => rw [visitItems, List.zipIdx_cons, visitAll, ih]

end

/-! ## Sites -/

/-- A node that a walk comes to. -/
structure Site (κ : Type) where
  value : Value
  pointer : Pointer
  schema : Option Value
  context : Option κ

/-- The tokens of the children of a value, with the schemas for them. -/
def branches (schema : Option Value) : Value → List (String × Option Value)
  | .object ms =>
    (Members.keys ms).map fun k => (k, schema.bind (propertySchema · k))
  | .array xs =>
    (List.range xs.length).map fun i =>
      (Pointer.indexToken i, schema.bind (itemSchema · i))
  | _ => []

theorem length_branches (schema : Option Value) (v : Value) :
    (branches schema v).length = v.children.length := by
  cases v with
  | object ms => simp [branches, Value.children, Members.keys]
  | array xs => simp [branches, Value.children]
  | _ => rfl

theorem branches_congr {v w : Value} (h : v.SameNode w) (schema : Option Value) :
    branches schema w = branches schema v := by
  cases v with
  | object ms =>
      cases w with
      | object ns =>
          have hkeys : Members.keys ms = Members.keys ns := h
          rw [branches, branches, hkeys]
      | _ => cases h
  | array xs =>
      cases w with
      | array ys =>
          have hlength : xs.length = ys.length := h
          rw [branches, branches, hlength]
      | _ => cases h
  | _ => cases w <;> first | rfl | cases h

variable {κ : Type}

/-- The sites of the children of a value, from the place, the effective schema
and the context of its node. -/
def sites (pointer : Pointer) (schema : Option Value) (context : Option κ)
    (v : Value) : List (Site κ) :=
  ((branches schema v).zip v.children).map fun b =>
    ⟨b.2, pointer.push b.1.1, b.1.2, context⟩

theorem map_value_sites (pointer : Pointer) (schema : Option Value)
    (context : Option κ) (v : Value) :
    (sites pointer schema context v).map Site.value = v.children := by
  rw [sites, List.map_map]
  exact List.map_snd_zip (Nat.le_of_eq (length_branches schema v).symm)

theorem sites_object (pointer : Pointer) (schema : Option Value)
    (context : Option κ) (ms : Members) :
    sites pointer schema context (.object ms) =
      ms.map fun m =>
        ⟨m.2, pointer.push m.1, schema.bind (propertySchema · m.1), context⟩ := by
  rw [sites, branches, Value.children, Members.keys, List.map_map,
    List.zip_map', List.map_map]
  rfl

theorem sites_array (pointer : Pointer) (schema : Option Value)
    (context : Option κ) (xs : List Value) :
    sites pointer schema context (.array xs) =
      xs.zipIdx.map fun x =>
        ⟨x.1, pointer.push (Pointer.indexToken x.2),
          schema.bind (itemSchema · x.2), context⟩ := by
  apply List.ext_getElem
  · simp [sites, branches, Value.children]
  · intro i h h'
    simp [sites, branches, Value.children]

/-- Other children at the same places. -/
theorem sites_rebuild (pointer : Pointer) (schema : Option Value)
    (context : Option κ) {v : Value} {vs : List Value}
    (h : vs.length = v.children.length) :
    sites pointer schema context (v.rebuild vs) =
      List.zipWith (fun s w => { s with value := w })
        (sites pointer schema context v) vs := by
  rw [sites, sites, branches_congr (Value.sameNode_rebuild h),
    Value.children_rebuild h]
  apply List.ext_getElem
  · simp only [List.length_map, List.length_zip, List.length_zipWith,
      length_branches, h, Nat.min_self]
  · intro i hi hi'
    simp only [List.getElem_map, List.getElem_zip, List.getElem_zipWith]

/-! ## Walks -/

variable [SchemaContext κ]

def walkAt (visitor : Visitor) (depth : Nat) (s : Site κ) : Step Value :=
  walk visitor depth s.value s.pointer s.schema s.context

theorem walk_succ (visitor : Visitor) (depth : Nat) (s : Site κ) :
    walkAt visitor (depth + 1) s =
      match nodeSchema s.schema s.context with
      | .error reference =>
        ([], .error (.failure (.unresolved reference s.pointer.text)))
      | .ok (schema, context) =>
        let call : Call := ⟨s.pointer, s.value, schema⟩
        match visitor.visit s.value s.pointer schema with
        | .error e => ([call], .error (.failure e))
        | .ok u =>
          Step.andThen ([call], .ok ()) fun _ =>
            Step.map u.rebuild
              (visitAll (walkAt visitor depth)
                (sites s.pointer schema context u)) := by
  rw [walkAt, walk]
  cases nodeSchema s.schema s.context with
  | error reference => rfl
  | ok found =>
      obtain ⟨schema, context⟩ := found
      dsimp only
      cases visitor.visit s.value s.pointer schema with
      | error e => rfl
      | ok u =>
          cases u with
          | object ms =>
              dsimp only
              rw [visitMembers_eq, sites_object, visitAll_map]
              simp only [Step.map_map]
              rfl
          | array xs =>
              dsimp only
              rw [visitItems_eq, sites_array, visitAll_map]
              rfl
          | _ => rfl

/-- The visitor is called at a site and answers; the walk goes on with what is
below the answer. -/
inductive Opens (visitor : Visitor) (s : Site κ) :
    Call → Value → List (Site κ) → Prop where
  | intro {schema : Option Value} {context : Option κ} {u : Value}
      (hschema : nodeSchema s.schema s.context = .ok (schema, context))
      (hvisit : visitor.visit s.value s.pointer schema = .ok u) :
      Opens visitor s ⟨s.pointer, s.value, schema⟩ u
        (sites s.pointer schema context u)

section

variable {visitor : Visitor} {depth : Nat} {s : Site κ} {call : Call} {u : Value}
  {below : List (Site κ)}

theorem walkAt_of_opens (h : Opens visitor s call u below) (depth : Nat) :
    walkAt visitor (depth + 1) s =
      (call :: (visitAll (walkAt visitor depth) below).1,
        (visitAll (walkAt visitor depth) below).2.map u.rebuild) := by
  cases h with
  | intro hschema hvisit =>
      rw [walk_succ, hschema]
      simp only [hvisit]
      rfl

/-- What a walk can do at a site: its schema is not found, the visitor fails
there, or it goes on. -/
theorem walkAt_cases (visitor : Visitor) (s : Site κ) :
    (∃ reference, nodeSchema s.schema s.context = .error reference ∧
      ∀ depth, walkAt visitor (depth + 1) s =
        ([], .error (.failure (.unresolved reference s.pointer.text)))) ∨
    (∃ schema context e,
      nodeSchema s.schema s.context = .ok (schema, context) ∧
      visitor.visit s.value s.pointer schema = .error e ∧
      ∀ depth, walkAt visitor (depth + 1) s =
        ([⟨s.pointer, s.value, schema⟩], .error (.failure e))) ∨
    ∃ call u below, Opens visitor s call u below := by
  cases hschema : nodeSchema s.schema s.context with
  | error reference =>
      exact .inl ⟨reference, rfl, fun depth => by rw [walk_succ, hschema]⟩
  | ok found =>
      obtain ⟨schema, context⟩ := found
      cases hvisit : visitor.visit s.value s.pointer schema with
      | error e =>
          refine .inr (.inl ⟨schema, context, e, rfl, hvisit, fun depth => ?_⟩)
          rw [walk_succ, hschema]
          simp only [hvisit]
      | ok u => exact .inr (.inr ⟨_, u, _, .intro hschema hvisit⟩)

theorem Opens.visit (h : Opens visitor s call u below) :
    call.pointer = s.pointer ∧
      visitor.visit call.value call.pointer call.schema = .ok u := by
  cases h with
  | intro _ hvisit => exact ⟨rfl, hvisit⟩

theorem Opens.map_value (h : Opens visitor s call u below) :
    below.map Site.value = u.children := by
  cases h with
  | intro => exact map_value_sites _ _ _ u

/-- A walk that succeeds has put the results from below into the answer. -/
theorem walkAt_ok {out : Value}
    (h : (walkAt visitor (depth + 1) s).2 = .ok out) :
    ∃ call u below outs, Opens visitor s call u below ∧
      List.Forall₂ (fun t w => (walkAt visitor depth t).2 = .ok w) below outs ∧
      out = u.rebuild outs ∧ outs.length = u.children.length ∧
      (walkAt visitor (depth + 1) s).1 =
        call :: below.flatMap fun t => (walkAt visitor depth t).1 := by
  obtain ⟨_, _, hwalk⟩ | ⟨_, _, _, _, _, hwalk⟩ | ⟨call, u, below, hopens⟩ :=
    walkAt_cases visitor s
  · rw [hwalk] at h
    cases h
  · rw [hwalk] at h
    cases h
  · rw [walkAt_of_opens hopens] at h ⊢
    cases houts : (visitAll (walkAt visitor depth) below).2 with
    | error e =>
        rw [houts] at h
        cases h
    | ok outs =>
        rw [houts] at h
        cases h
        obtain ⟨hresults, htrace⟩ := visitAll_ok houts
        refine ⟨call, u, below, outs, hopens, hresults, rfl, ?_, by rw [htrace]⟩
        rw [← hresults.length_eq, ← hopens.map_value, List.length_map]

/-- A walk that has ended does the same within every larger bound. -/
theorem walkAt_mono {depth' : Nat} (hdepth : depth ≤ depth')
    (h : (walkAt visitor depth s).2 ≠ .error .exhausted) :
    walkAt visitor depth' s = walkAt visitor depth s := by
  induction depth generalizing depth' s with
  | zero => exact absurd rfl h
  | succ depth ih =>
      obtain ⟨depth', rfl⟩ : ∃ d, depth' = d + 1 := ⟨depth' - 1, by omega⟩
      obtain ⟨_, _, hwalk⟩ | ⟨_, _, _, _, _, hwalk⟩ | ⟨call, u, below, hopens⟩ :=
        walkAt_cases visitor s
      · rw [hwalk, hwalk]
      · rw [hwalk, hwalk]
      · rw [walkAt_of_opens hopens] at h
        rw [walkAt_of_opens hopens, walkAt_of_opens hopens]
        have hbelow : (visitAll (walkAt visitor depth) below).2 ≠
            .error .exhausted := fun he => h (by rw [he]; rfl)
        rw [visitAll_congr (fun t _ ht => ih (by omega) ht) hbelow]

end

end Walk

end SchemaPipeline
