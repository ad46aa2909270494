import SchemaPipeline.Proofs.Transform.Idempotence
import SchemaPipeline.Proofs.Walk.Addresses

/-!
# What filling guarantees

A walk that fills what is undefined comes to nodes that were not there before:
it puts a `null` where a property is missing, and then goes on to this `null`.
What holds at the end is told of the nodes of the result, each with the schema
that the walk has paired it with (`Below`), and of the value that was there
under the same pointer.

A single answer is `Grown`: a node as it was, something in the place of a
`null`, or an object with members added at its end. A child of it was either
there before, under the same token, or is a `null` where nothing was. With this
both parts go by induction on the depth: the result extends the value, and at
each node the declared properties are there (`filling_guarantees`).
-/

namespace SchemaPipeline

/-! ## Members under the same keys -/

/-- The same keys in the same order, each with a value that is so related. -/
def Members.Paired (R : Value → Value → Prop) (ms ns : Members) : Prop :=
  List.Forall₂ (fun m n => n.1 = m.1 ∧ R m.2 n.2) ms ns

namespace Members.Paired

variable {R : Value → Value → Prop} {ms ns added : Members}

theorem keys_eq (h : Paired R ms ns) : Members.keys ns = Members.keys ms := by
  induction h with
  | nil => rfl
  | cons hfirst _ ih =>
      rw [Members.keys, Members.keys, List.map_cons, List.map_cons, hfirst.1]
      exact congrArg _ ih

theorem values (h : Paired R ms ns) :
    List.Forall₂ R (ms.map Prod.snd) (ns.map Prod.snd) := by
  rw [List.forall₂_map_left_iff, List.forall₂_map_right_iff]
  exact h.imp fun _ _ hmn => hmn.2

theorem of_values {vs : List Value} (h : List.Forall₂ R (ms.map Prod.snd) vs) :
    Paired R ms ((Members.keys ms).zip vs) := by
  induction ms generalizing vs with
  | nil => exact .nil
  | cons m rest ih =>
      cases h with
      | cons hfirst hrest => exact .cons ⟨rfl, hfirst⟩ (ih hrest)

theorem exists_append (h : Paired R (ms ++ added) ns) :
    ∃ front news, ns = front ++ news ∧ Paired R ms front ∧
      Paired R added news := by
  induction ms generalizing ns with
  | nil => exact ⟨[], ns, rfl, .nil, h⟩
  | cons m rest ih =>
      cases h with
      | cons hfirst hrest =>
          obtain ⟨front, news, rfl, hfront, hnews⟩ := ih hrest
          exact ⟨_, news, rfl, .cons hfirst hfront, hnews⟩

theorem exists_of_mem (h : Paired R ms ns) {n : String × Value} (hn : n ∈ ns) :
    ∃ v, (n.1, v) ∈ ms ∧ R v n.2 := by
  induction h with
  | nil => cases hn
  | @cons m n' _ _ hfirst _ ih =>
      rcases List.mem_cons.1 hn with rfl | hn
      · exact ⟨m.2, hfirst.1 ▸ List.mem_cons_self, hfirst.2⟩
      · obtain ⟨v, hv, hrelated⟩ := ih hn
        exact ⟨v, List.mem_cons_of_mem _ hv, hrelated⟩

end Members.Paired

/-! ## Values with more in them -/

namespace Value

/-- The same scalars, more members behind the old ones, and anything that can
hold members or elements in the place of a `null`. -/
inductive ExtendedBy : Value → Value → Prop where
  | bool (b : Bool) : ExtendedBy (.bool b) (.bool b)
  | number (n : Number) : ExtendedBy (.number n) (.number n)
  | string (s : String) : ExtendedBy (.string s) (.string s)
  | null : ExtendedBy .null .null
  | toArray (xs : List Value) : ExtendedBy .null (.array xs)
  | toObject (ms : Members) : ExtendedBy .null (.object ms)
  | array {xs ys : List Value} (h : List.Forall₂ ExtendedBy xs ys) :
      ExtendedBy (.array xs) (.array ys)
  | object {ms ns added : Members} (hkeys : Members.keys ns = Members.keys ms)
      (h : List.Forall₂ ExtendedBy (ms.map Prod.snd) (ns.map Prod.snd)) :
      ExtendedBy (.object ms) (.object (ns ++ added))

/-- The keys of an object; nothing else has any. -/
def keys : Value → List String
  | .object ms => Members.keys ms
  | _ => []

/-- The keys of what tokens lead to, if they lead anywhere. -/
def keysAt (v : Value) (tokens : List String) : List String :=
  ((Pointer.descend tokens v).map keys).getD []

theorem keysAt_cons {v x : Value} {token : String}
    (h : Pointer.child? v token = some x) (rest : List String) :
    v.keysAt (token :: rest) = x.keysAt rest := by
  rw [keysAt, Pointer.descend, h, Option.bind_some, keysAt]

theorem keysAt_cons_none {v : Value} {token : String}
    (h : Pointer.child? v token = none) (rest : List String) :
    v.keysAt (token :: rest) = [] := by
  rw [keysAt, Pointer.descend, h]
  rfl

theorem keysAt_null (tokens : List String) : Value.null.keysAt tokens = [] := by
  cases tokens with
  | nil => rfl
  | cons token rest => exact keysAt_cons_none rfl rest

/-- Members that extend those in front, whatever is behind them. -/
theorem extendedBy_rebuild (ms added : Members) {vs : List Value}
    (h : List.Forall₂ ExtendedBy ((ms ++ added).map Prod.snd) vs) :
    (Value.object ms).ExtendedBy ((Value.object (ms ++ added)).rebuild vs) := by
  obtain ⟨front, news, heq, hfront, -⟩ :=
    (Members.Paired.of_values h).exists_append
  rw [rebuild, heq]
  exact .object hfront.keys_eq hfront.values

end Value

namespace Transform

/-! ## A single answer -/

/-- Members that stand for properties which are not there. -/
def nulls (names : List String) : Members := names.map (·, .null)

/-- What filling can make of a node. -/
inductive Grown : Value → Value → Prop where
  | kept (v : Value) : Grown v v
  | toArray : Grown .null (.array [])
  | toObject (names : List String) : Grown .null (.object (nulls names))
  | added {ms : Members} {names : List String}
      (hfresh : ∀ name ∈ names, name ∉ Members.keys ms) :
      Grown (.object ms) (.object (ms ++ nulls names))

/-- The names that are added: the missing ones, in the order they come in. -/
structure Missing (old names added : List String) : Prop where
  sublist : added.Sublist names
  mem_iff : ∀ name, name ∈ added ↔ name ∈ names ∧ name ∉ old

theorem exists_missing (ms : Members) (names : List String) :
    ∃ added, addAllMissing ms names = ms ++ nulls added ∧
      Missing (Members.keys ms) names added := by
  obtain ⟨members, heq, hsublist, hfresh, -⟩ := exists_addDefaults ms (nulls names)
  obtain ⟨added, hadded, rfl⟩ := List.sublist_map_iff.1 hsublist
  rw [nulls, ← addAllMissing_eq] at heq
  refine ⟨added, heq, hadded, fun name => ⟨fun hname => ?_, ?_⟩⟩
  · exact ⟨hadded.subset hname, hfresh (name, .null) (List.mem_map_of_mem hname)⟩
  · rintro ⟨hname, hold⟩
    have hkey : name ∈ Members.keys (addAllMissing ms names) :=
      mem_keys_addAllMissing.2 (.inr hname)
    rw [heq, Members.keys, List.map_append, List.mem_append] at hkey
    have hnew := hkey.resolve_left hold
    rwa [← Members.keys, keys_nulls] at hnew

theorem fill_grown (schema : Members) (v : Value) : Grown v (fill schema v) := by
  have hfills := fill_fills schema v
  generalize fill schema v = u at hfills ⊢
  cases hfills with
  | kept => exact .kept v
  | toArray => exact .toArray
  | toObject =>
      obtain ⟨added, heq, -⟩ := exists_missing [] (declaredProperties schema)
      rw [heq]
      exact .toObject added
  | @added ms =>
      obtain ⟨added, heq, -, hmem⟩ :=
        exists_missing ms (declaredProperties schema)
      rw [heq]
      exact .added fun name hname => ((hmem name).1 hname).2

theorem fillUndefined_grown (v : Value) (schema : Option Value) :
    Grown v (fillUndefined v schema) := by
  unfold fillUndefined
  split
  · exact fill_grown ..
  · exact .kept v

/-- Under an object-like schema, the keys of the answer are the old ones and then
the declared ones that were missing. -/
theorem keys_fill {schema ms : Members} {v : Value}
    (h : fill schema v = .object ms) (hobject : isObjectLike schema = true) :
    ∃ added, Members.keys ms = v.keys ++ added ∧
      Missing v.keys (declaredProperties schema) added := by
  have hkeys : ∀ old : Members,
      .object (addAllMissing old (declaredProperties schema)) = Value.object ms →
      ∃ added, Members.keys ms = Members.keys old ++ added ∧
        Missing (Members.keys old) (declaredProperties schema) added := by
    intro old heq
    cases heq
    obtain ⟨added, heq, hmissing⟩ := exists_missing old (declaredProperties schema)
    refine ⟨added, ?_, hmissing⟩
    rw [heq, Members.keys, List.map_append]
    exact congrArg _ (keys_nulls added)
  have hfills := fill_fills schema v
  rw [h] at hfills
  generalize hmade : Value.object ms = u at hfills
  cases hfills with
  | kept _ hkept => cases hobject.symm.trans (hkept (hmade ▸ rfl))
  | toArray => cases hmade
  | toObject => exact hkeys [] hmade.symm
  | @added old => exact hkeys old hmade.symm

/-- Where `null` is the answer, the schema admits it or asks for nothing that
could take its place. -/
theorem admitsNull_of_fill {schema : Members} {v : Value}
    (h : fill schema v = .null)
    (hlike : isArrayLike schema = true ∨ isObjectLike schema = true) :
    admitsNull schema = true := by
  have hfills := fill_fills schema v
  rw [h] at hfills
  generalize hmade : Value.null = u at hfills
  cases hfills with
  | kept hnull =>
      by_contra hadmits
      obtain ⟨harray, hobject⟩ :=
        hnull hmade.symm (Bool.eq_false_iff.2 hadmits)
      rw [harray, hobject] at hlike
      exact hlike.elim nofun nofun
  | toArray | toObject | added => cases hmade

namespace Grown

variable {v u : Value}

theorem extendedBy (h : Grown v u) {vs : List Value}
    (hvs : List.Forall₂ Value.ExtendedBy u.children vs) :
    v.ExtendedBy (u.rebuild vs) := by
  cases h with
  | kept =>
      cases v with
      | null => exact .null
      | bool b => exact .bool b
      | number n => exact .number n
      | string s => exact .string s
      | array xs => exact .array hvs
      | object ms =>
          have hchildren : List.Forall₂ Value.ExtendedBy
              ((ms ++ []).map Prod.snd) vs := by
            rw [List.append_nil]
            exact hvs
          have hmembers := Value.extendedBy_rebuild ms [] hchildren
          rw [List.append_nil] at hmembers
          exact hmembers
  | toArray => exact .toArray _
  | toObject names => exact .toObject _
  | added hfresh => exact Value.extendedBy_rebuild _ _ hvs

/-- A child of an answer was there before, or it is a `null` where nothing was. -/
theorem child (h : Grown v u) (hproper : v.Proper) {token : String} {x : Value}
    (hx : (token, x) ∈ u.entries) :
    Pointer.child? v token = some x ∨
      Pointer.child? v token = none ∧ x = .null := by
  cases h with
  | kept => exact .inl ((Pointer.child?_eq_some_iff hproper).2 hx)
  | toArray => cases hx
  | toObject names =>
      obtain ⟨_, -, heq⟩ := List.mem_map.1 hx
      cases heq
      exact .inr ⟨rfl, rfl⟩
  | @added ms names hfresh =>
      rcases List.mem_append.1 hx with hold | hnew
      · exact .inl ((Pointer.child?_eq_some_iff hproper).2 hold)
      · obtain ⟨_, hname, heq⟩ := List.mem_map.1 hnew
        cases heq
        refine .inr ⟨?_, rfl⟩
        cases hfind : Members.find? ms token with
        | none => exact hfind
        | some y =>
            have hmem := List.mem_map_of_mem (f := Prod.fst)
              (Members.mem_of_find? hfind)
            exact absurd hmem (hfresh token hname)

/-- Below a child, what was there before is what was below it. -/
theorem keysAt (h : Grown v u) (hproper : v.Proper) {token : String} {x : Value}
    (hx : (token, x) ∈ u.entries) (rest : List String) :
    v.keysAt (token :: rest) = x.keysAt rest := by
  rcases h.child hproper hx with hchild | ⟨hnone, rfl⟩
  · exact Value.keysAt_cons hchild rest
  · rw [Value.keysAt_cons_none hnone, Value.keysAt_null]

theorem proper (h : Grown v u) (hproper : v.Proper) {token : String} {x : Value}
    (hx : (token, x) ∈ u.entries) : x.Proper := by
  rcases h.child hproper hx with hchild | ⟨-, rfl⟩
  · have hmem := (Pointer.child?_eq_some_iff hproper).1 hchild
    exact hproper.child (Value.child_of_mem_entries hmem)
  · trivial

end Grown

end Transform

namespace Walk

open Transform

variable {κ : Type}

/-! ## The nodes of a result -/

/-- A site below a node is a child of it, under the token of the child. -/
theorem entry_of_mem_sites {pointer : Pointer} {schema : Option Value}
    {context : Option κ} {v : Value} {t : Site κ}
    (ht : t ∈ sites pointer schema context v) :
    ∃ token, (token, t.value) ∈ v.entries ∧ t.pointer = pointer.push token := by
  have hmem := List.mem_map_of_mem (f := fun t : Site κ => (t.pointer, t.value)) ht
  rw [map_sites] at hmem
  obtain ⟨⟨token, x⟩, hentry, heq⟩ := List.mem_map.1 hmem
  obtain ⟨hpointer, hvalue⟩ := Prod.mk.inj heq
  exact ⟨token, hvalue ▸ hentry, hpointer.symm⟩

variable [SchemaContext κ]

/-- The sites from a site on, without the visitor: a value's members and
elements, with the schemas that its effective schema has for them. -/
inductive Below : Site κ → Site κ → Prop where
  | here (s : Site κ) : Below s s
  | child {s t r : Site κ} {schema : Option Value} {context : Option κ}
      (hschema : nodeSchema s.schema s.context = .ok (schema, context))
      (ht : t ∈ sites s.pointer schema context s.value) (h : Below t r) :
      Below s r

section

variable {visitor : Visitor} {depth : Nat} {s : Site κ} {w : Value}

/-- What a walk that succeeds has put together: the answer to its first call,
with what has come out of the walks below it. -/
theorem walkAt_ok_sites (h : (walkAt visitor (depth + 1) s).2 = .ok w) :
    ∃ schema context u outs,
      nodeSchema s.schema s.context = .ok (schema, context) ∧
      visitor.visit s.value s.pointer schema = .ok u ∧
      w = u.rebuild outs ∧ u.SameNode w ∧
      List.Forall₂ (fun t w => (walkAt visitor depth t).2 = .ok w)
        (sites s.pointer schema context u) outs ∧
      ∀ t' ∈ sites s.pointer schema context w,
        ∃ t ∈ sites s.pointer schema context u,
          t' = { t with value := t'.value } ∧
            (walkAt visitor depth t).2 = .ok t'.value := by
  obtain ⟨call, u, below, outs, hopens, hresults, rfl, hlength, -⟩ := walkAt_ok h
  cases hopens with
  | @intro schema context _ hschema hvisit =>
      refine ⟨schema, context, u, outs, hschema, hvisit, rfl,
        Value.sameNode_rebuild hlength, hresults, fun t' ht' => ?_⟩
      rw [sites_rebuild s.pointer schema context hlength] at ht'
      obtain ⟨t, ht, x, hx, rfl⟩ := exists_of_mem_zipWith hresults ht'
      exact ⟨t, ht, rfl, hx⟩

/-- Every node of a result is one of the sites below it. -/
theorem exists_below_of_node (h : (walkAt visitor depth s).2 = .ok w)
    {p : Pointer} {x : Value} (hx : (p, x) ∈ w.nodes s.pointer) :
    ∃ r, Below { s with value := w } r ∧ r.pointer = p ∧ r.value = x := by
  induction depth generalizing s w with
  | zero => cases h
  | succ depth ih =>
      obtain ⟨schema, context, u, outs, hschema, -, -, -, -, hsites⟩ :=
        walkAt_ok_sites h
      rw [nodes_eq s.pointer schema context w] at hx
      rcases List.mem_cons.1 hx with heq | hbelow
      · cases heq
        exact ⟨_, .here _, rfl, rfl⟩
      · obtain ⟨t', ht', hx⟩ := List.mem_flatMap.1 hbelow
        obtain ⟨t, -, heq, hw⟩ := hsites t' ht'
        have hpointer : t'.pointer = t.pointer := by rw [heq]
        rw [hpointer] at hx
        obtain ⟨r, hr, hfound⟩ := ih hw hx
        rw [← heq] at hr
        exact ⟨r, .child hschema ht' hr, hfound⟩

end

/-! ## Filling -/

/-- What is promised of a node of the result with an object schema, in terms of
what was there before: its declared properties are there, those that were
missing in the order of their declaration behind the others, and it is `null`
only if this is admitted or it is to hold neither elements nor members. -/
structure Filled (v : Value) (tokens : List String) (schema : Members)
    (x : Value) : Prop where
  declared : ∀ ms, x = .object ms → isObjectLike schema = true →
    ∃ added, Members.keys ms = v.keysAt tokens ++ added ∧
      Missing (v.keysAt tokens) (declaredProperties schema) added
  present : x = .null →
    isArrayLike schema = true ∨ isObjectLike schema = true →
    admitsNull schema = true

theorem filled_of_sameNode {schema : Members} {v w : Value}
    (h : (fill schema v).SameNode w) : Filled v [] schema w where
  declared ms hw hobject := by
    subst hw
    cases hfill : fill schema v with
    | object us =>
        rw [hfill] at h
        have hkeys : Members.keys us = Members.keys ms := h
        rw [← hkeys]
        exact keys_fill hfill hobject
    | _ =>
        rw [hfill] at h
        cases h
  present hw hlike := by
    subst hw
    cases hfill : fill schema v with
    | null => exact admitsNull_of_fill hfill hlike
    | _ =>
        rw [hfill] at h
        cases h

theorem extendedBy_of_filling {depth : Nat} {s : Site κ} {w : Value}
    (h : (walkAt filling depth s).2 = .ok w) : s.value.ExtendedBy w := by
  induction depth generalizing s w with
  | zero => cases h
  | succ depth ih =>
      obtain ⟨schema, context, u, outs, -, hvisit, rfl, -, hresults, -⟩ :=
        walkAt_ok_sites h
      cases hvisit
      refine (fillUndefined_grown s.value schema).extendedBy ?_
      rw [← map_value_sites s.pointer schema context, List.forall₂_map_left_iff]
      exact hresults.imp fun t x hx => ih hx

/-- At every site below a result the effective schema is found, and what it
declares is there. -/
theorem filled_of_below {depth : Nat} {s r : Site κ} {w : Value}
    (hproper : s.value.Proper) (h : (walkAt filling depth s).2 = .ok w)
    (hr : Below { s with value := w } r) :
    ∃ tokens, r.pointer.tokens = s.pointer.tokens ++ tokens ∧
      ∃ schema context,
        nodeSchema r.schema r.context = .ok (schema, context) ∧
        ∀ ms, schema = some (.object ms) → Filled s.value tokens ms r.value := by
  induction depth generalizing s w with
  | zero => cases h
  | succ depth ih =>
      obtain ⟨schema, context, u, outs, hschema, hvisit, -, hsame, -, hsites⟩ :=
        walkAt_ok_sites h
      cases hvisit
      have hgrown := fillUndefined_grown s.value schema
      cases hr with
      | here =>
          refine ⟨[], (List.append_nil _).symm, schema, context, hschema, ?_⟩
          rintro ms rfl
          exact filled_of_sameNode hsame
      | @child _ t' _ schema' context' hschema' ht' hbelow =>
          cases hschema.symm.trans hschema'
          obtain ⟨t, ht, heq, hw⟩ := hsites t' ht'
          obtain ⟨token, hentry, hpointer⟩ := entry_of_mem_sites ht
          rw [heq] at hbelow
          obtain ⟨tokens, htokens, found, inner, hfound, hfilled⟩ :=
            ih (hgrown.proper hproper hentry) hw hbelow
          refine ⟨token :: tokens, ?_, found, inner, hfound, fun ms hms => ?_⟩
          · rw [htokens, hpointer, Pointer.push, List.append_assoc]
            rfl
          · have hkeys := hgrown.keysAt hproper hentry tokens
            obtain ⟨hdeclared, hpresent⟩ := hfilled ms hms
            rw [← hkeys] at hdeclared
            exact ⟨hdeclared, hpresent⟩

/-- What comes out of filling extends what went in. Each of its nodes has an
effective schema, and where this is object-like, the declared properties are
there behind the old ones; where it is array-like or object-like, there is no
`null` that it does not admit. -/
theorem filling_guarantees {v w : Value} (hproper : v.Proper) {depth : Nat}
    {schema : Option Value} {context : Option κ}
    (h : (run filling depth v schema context).2 = .ok w) :
    v.ExtendedBy w ∧
    (∀ p x, (p, x) ∈ w.nodes .root →
      ∃ r, Below ⟨w, .root, schema, context⟩ r ∧ r.pointer = p ∧ r.value = x) ∧
    ∀ r, Below ⟨w, .root, schema, context⟩ r →
      ∃ found inner, nodeSchema r.schema r.context = .ok (found, inner) ∧
        ∀ ms, found = some (.object ms) →
          Filled v r.pointer.tokens ms r.value := by
  let s : Site κ := ⟨v, .root, schema, context⟩
  have hwalk : (walkAt filling depth s).2 = .ok w := h
  refine ⟨extendedBy_of_filling hwalk,
    fun p x hx => exists_below_of_node hwalk hx, fun r hr => ?_⟩
  obtain ⟨tokens, htokens, hfilled⟩ := filled_of_below hproper hwalk hr
  have hsame : r.pointer.tokens = tokens := htokens
  rw [hsame]
  exact hfilled

/-- A value that lacks what `wanted` declares. -/
def bare : Value := .object [("b", .null), ("x", .bool true)]

def wanted : Value :=
  .object [("properties", .object [
    ("a", .object [("properties", .object [
      ("z", .object [("type", .string "array")])])]),
    ("b", .object [("type", .string "object")])])]

def fledged : Value :=
  .object [("b", .object []), ("x", .bool true),
    ("a", .object [("z", .array [])])]

theorem filling_guarantees_bare :
    bare.Proper ∧
    (run filling 8 bare (some wanted) (none : Option Empty)).2 = .ok fledged ∧
    bare.ExtendedBy fledged ∧
    (∀ p x, (p, x) ∈ fledged.nodes .root →
      ∃ r, Below ⟨fledged, .root, some wanted, (none : Option Empty)⟩ r ∧
        r.pointer = p ∧ r.value = x) ∧
    ∀ r, Below ⟨fledged, .root, some wanted, (none : Option Empty)⟩ r →
      ∃ found inner, nodeSchema r.schema r.context = .ok (found, inner) ∧
        ∀ ms, found = some (.object ms) →
          Filled bare r.pointer.tokens ms r.value := by
  have hproper : bare.Proper := by
    simp [bare, Value.Proper, properMembers]
  have hrun : (run filling 8 bare (some wanted) (none : Option Empty)).2 =
      .ok fledged := by decide
  exact ⟨hproper, hrun, filling_guarantees hproper hrun⟩

end Walk

end SchemaPipeline
