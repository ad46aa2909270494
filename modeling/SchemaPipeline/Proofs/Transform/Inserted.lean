import SchemaPipeline.Proofs.Registry.Coverage
import SchemaPipeline.Proofs.Transform.Filled

/-!
# What inserting defaults guarantees

A default that is put in is walked like what was there before, so it may be
completed in turn, by the defaults of the schema that its own schema refers to.
What a node of the result is an extension of is therefore not always found in
the value: it is what the walk has met there (`Stems`), which is a child of what
it has met one node above, or the default of a property that was not there.

What holds at one node is `Completed`: old members in front, no declared default
missing, and behind the old members nothing but extensions of defaults. It goes
from a single answer (`Supply`) to all nodes of the result by induction on the
depth (`inserting_guarantees`).
-/

namespace SchemaPipeline

/-! ## Values that are kept -/

namespace Value

/-- The same scalars, as many elements, and more members behind the old ones. -/
inductive KeptIn : Value → Value → Prop where
  | null : KeptIn .null .null
  | bool (b : Bool) : KeptIn (.bool b) (.bool b)
  | number (n : Number) : KeptIn (.number n) (.number n)
  | string (s : String) : KeptIn (.string s) (.string s)
  | array {xs ys : List Value} (h : List.Forall₂ KeptIn xs ys) :
      KeptIn (.array xs) (.array ys)
  | object {ms ns added : Members} (hkeys : Members.keys ns = Members.keys ms)
      (h : List.Forall₂ KeptIn (ms.map Prod.snd) (ns.map Prod.snd)) :
      KeptIn (.object ms) (.object (ns ++ added))

end Value

namespace Transform

open Value

/-! ## A single answer -/

/-- A property with this name is declared, and its schema has this default of
its own. -/
def HasDefault (found : Option Value) (name : String) (default : Value) : Prop :=
  ∃ schema ps property, found = some schema ∧
    schema.get? "properties" = some (.object ps) ∧ (name, property) ∈ ps ∧
    property.get? "default" = some default

theorem mem_declaredDefaults {schema : Value} {m : String × Value} :
    m ∈ declaredDefaults schema ↔ HasDefault (some schema) m.1 m.2 := by
  rw [declaredDefaults]
  split
  · next ps hps =>
      rw [List.mem_filterMap]
      constructor
      · rintro ⟨⟨name, property⟩, hproperty, hm⟩
        obtain ⟨default, hdefault, rfl⟩ := Option.map_eq_some_iff.1 hm
        exact ⟨schema, ps, property, rfl, hps, hproperty, hdefault⟩
      · rintro ⟨schema', ps', property, hschema, hps', hproperty, hdefault⟩
        cases hschema
        cases hps.symm.trans hps'
        exact ⟨(m.1, property), hproperty, by simp only [hdefault, Option.map_some]⟩
  · next hnone =>
      refine iff_of_false List.not_mem_nil ?_
      rintro ⟨schema', ps, property, hschema, hps, -⟩
      cases hschema
      exact hnone ps hps

/-- What is added to an object: defaults of missing properties, one for each. -/
structure Supply (found : Option Value) (ms added : Members) : Prop where
  fresh : ∀ m ∈ added, m.1 ∉ Members.keys ms
  source : ∀ m ∈ added, HasDefault found m.1 m.2
  complete : ∀ name default, HasDefault found name default →
    name ∈ Members.keys ms ∨ name ∈ Members.keys added
  nodup : (Members.keys added).Nodup

theorem exists_supply (ms : Members) (found : Option Value) :
    ∃ added, insertDefaults (.object ms) found = .object (ms ++ added) ∧
      Supply found ms added := by
  cases found with
  | none =>
      refine ⟨[], by rw [List.append_nil]; rfl, nofun, nofun, ?_, List.nodup_nil⟩
      rintro name default ⟨schema, -, -, hschema, -⟩
      cases hschema
  | some schema =>
      obtain ⟨added, heq, hsublist, hfresh, hnodup⟩ :=
        exists_addDefaults ms (declaredDefaults schema)
      refine ⟨added, congrArg Value.object heq, hfresh, fun m hm => ?_,
        fun name default hdefault => ?_, hnodup⟩
      · exact mem_declaredDefaults.1 (hsublist.subset hm)
      · have hmem : (name, default) ∈ declaredDefaults schema :=
          mem_declaredDefaults.2 hdefault
        have hkey : name ∈ Members.keys (addDefaults ms (declaredDefaults schema)) :=
          mem_keys_addDefaults.2 (.inr (List.mem_map_of_mem hmem))
        rwa [heq, Members.keys, List.map_append, List.mem_append] at hkey

/-- What an answer is to a node. -/
inductive Answer (found : Option Value) : Value → Value → Prop where
  | object {ms added : Members} (h : Supply found ms added) :
      Answer found (.object ms) (.object (ms ++ added))
  | other {v : Value} (h : ∀ ms, v ≠ .object ms) : Answer found v v

theorem insertDefaults_answer (v : Value) (found : Option Value) :
    Answer found v (insertDefaults v found) := by
  cases v with
  | object ms =>
      obtain ⟨added, heq, hsupply⟩ := exists_supply ms found
      rw [heq]
      exact .object hsupply
  | _ => exact .other nofun

/-- What is promised of a node of the result, in terms of its effective schema
and of what the walk has met there. -/
structure Completed (o : Value) (found : Option Value) (x : Value) : Prop where
  kept : o.KeptIn x
  declared : ∀ ms, x = .object ms → ∀ name default,
    HasDefault found name default → name ∈ Members.keys ms
  added : ∀ ms, x = .object ms → ∃ old added, ms = old ++ added ∧
    Members.keys old = o.keys ∧ (Members.keys added).Nodup ∧
    ∀ m ∈ added, m.1 ∉ o.keys ∧
      ∃ default, HasDefault found m.1 default ∧ default.KeptIn m.2

/-- What is no object stays as it is, but for the elements of an array. -/
theorem keptIn_of_other {v : Value} (h : ∀ ms, v ≠ .object ms) {vs : List Value}
    (hvs : List.Forall₂ KeptIn v.children vs) :
    v.KeptIn (v.rebuild vs) ∧ ∀ ms, v.rebuild vs ≠ .object ms := by
  cases v with
  | object ms => exact absurd rfl (h ms)
  | null => exact ⟨.null, h⟩
  | bool b => exact ⟨.bool b, h⟩
  | number n => exact ⟨.number n, h⟩
  | string s => exact ⟨.string s, h⟩
  | array xs => exact ⟨.array hvs, fun ms heq => by cases heq⟩

theorem Answer.completed {found : Option Value} {v u : Value}
    (h : Answer found v u) {vs : List Value}
    (hvs : List.Forall₂ KeptIn u.children vs) :
    Completed v found (u.rebuild vs) := by
  cases h with
  | @object ms added hsupply =>
      obtain ⟨front, news, heq, hfront, hnews⟩ :=
        (Members.Paired.of_values hvs).exists_append
      rw [rebuild, heq]
      refine ⟨.object hfront.keys_eq hfront.values, ?_, ?_⟩
      · rintro _ ⟨⟩ name default hdefault
        rw [Members.keys, List.map_append, List.mem_append]
        have hname := hsupply.complete name default hdefault
        rwa [← hfront.keys_eq, ← hnews.keys_eq] at hname
      · rintro _ ⟨⟩
        refine ⟨front, news, rfl, hfront.keys_eq, ?_, fun m hm => ?_⟩
        · rw [hnews.keys_eq]
          exact hsupply.nodup
        · obtain ⟨default, hmem, hkept⟩ := hnews.exists_of_mem hm
          exact ⟨hsupply.fresh (m.1, default) hmem, default,
            hsupply.source (m.1, default) hmem, hkept⟩
  | other hother =>
      obtain ⟨hkept, hnone⟩ := keptIn_of_other hother hvs
      exact ⟨hkept, fun ms hms => absurd hms (hnone ms),
        fun ms hms => absurd hms (hnone ms)⟩

end Transform

namespace Walk

open Transform

variable {κ : Type} [SchemaContext κ]

/-! ## The walk -/

/-- What the walk has met where a site of the result is: the value itself at the
root, then a child of what it has met above, or, where there was none, the
default of the property. -/
inductive Stems (v : Value) (s : Site κ) : Value → Site κ → Prop where
  | root : Stems v s v s
  | kept {o x : Value} {r t : Site κ} {found : Option Value} {inner : Option κ}
      {token : String} (h : Stems v s o r)
      (hschema : nodeSchema r.schema r.context = .ok (found, inner))
      (ht : t ∈ sites r.pointer found inner r.value)
      (hpointer : t.pointer = r.pointer.push token)
      (hx : (token, x) ∈ o.entries) : Stems v s x t
  | put {ms : Members} {default : Value} {r t : Site κ} {found : Option Value}
      {inner : Option κ} {token : String} (h : Stems v s (.object ms) r)
      (hschema : nodeSchema r.schema r.context = .ok (found, inner))
      (ht : t ∈ sites r.pointer found inner r.value)
      (hpointer : t.pointer = r.pointer.push token)
      (hfresh : token ∉ Members.keys ms)
      (hdefault : HasDefault found token default) : Stems v s default t

theorem Stems.trans {v o x : Value} {s t r : Site κ} (h : Stems v s o t)
    (h' : Stems o t x r) : Stems v s x r := by
  induction h' with
  | root => exact h
  | kept _ hschema ht hpointer hx ih => exact .kept ih hschema ht hpointer hx
  | put _ hschema ht hpointer hfresh hdefault ih =>
      exact .put ih hschema ht hpointer hfresh hdefault

theorem keptIn_of_inserting {depth : Nat} {s : Site κ} {w : Value}
    (h : (walkAt defaults depth s).2 = .ok w) : s.value.KeptIn w := by
  induction depth generalizing s w with
  | zero => cases h
  | succ depth ih =>
      obtain ⟨found, inner, u, outs, -, hvisit, rfl, -, hresults, -⟩ :=
        walkAt_ok_sites h
      cases hvisit
      refine ((insertDefaults_answer s.value found).completed ?_).kept
      rw [← map_value_sites s.pointer found inner, List.forall₂_map_left_iff]
      exact hresults.imp fun t x hx => ih hx

/-- What the walk goes on with below an answer. -/
theorem stems_of_answer {s t t' : Site κ} {u w : Value} {found : Option Value}
    {inner : Option κ} (hanswer : Answer found s.value u)
    (hschema : nodeSchema s.schema s.context = .ok (found, inner))
    (ht : t ∈ sites s.pointer found inner u)
    (ht' : t' ∈ sites s.pointer found inner w)
    (heq : t' = { t with value := t'.value }) :
    Stems s.value { s with value := w } t.value t' := by
  obtain ⟨token, hentry, hpointer⟩ := entry_of_mem_sites ht
  have hpointer' : t'.pointer = s.pointer.push token := by rw [heq, hpointer]
  generalize s.value = v at hanswer
  cases hanswer with
  | @object ms added hsupply =>
      rcases List.mem_append.1 hentry with hold | hnew
      · exact .kept .root hschema ht' hpointer' hold
      · exact .put .root hschema ht' hpointer' (hsupply.fresh _ hnew)
          (hsupply.source _ hnew)
  | other => exact .kept .root hschema ht' hpointer' hentry

theorem completed_of_below {depth : Nat} {s r : Site κ} {w : Value}
    (h : (walkAt defaults depth s).2 = .ok w)
    (hr : Below { s with value := w } r) :
    ∃ o found inner, Stems s.value { s with value := w } o r ∧
      nodeSchema r.schema r.context = .ok (found, inner) ∧
      Completed o found r.value := by
  induction depth generalizing s w with
  | zero => cases h
  | succ depth ih =>
      obtain ⟨found, inner, u, outs, hschema, hvisit, hw, -, hresults, hsites⟩ :=
        walkAt_ok_sites h
      cases hvisit
      have hanswer := insertDefaults_answer s.value found
      cases hr with
      | here =>
          refine ⟨s.value, found, inner, .root, hschema, ?_⟩
          rw [hw]
          refine hanswer.completed ?_
          rw [← map_value_sites s.pointer found inner, List.forall₂_map_left_iff]
          exact hresults.imp fun t x hx => keptIn_of_inserting hx
      | @child _ t' _ found' inner' hschema' ht' hbelow =>
          cases hschema.symm.trans hschema'
          obtain ⟨t, ht, heq, hwalk⟩ := hsites t' ht'
          have hstems := stems_of_answer hanswer hschema ht ht' heq
          rw [heq] at hbelow hstems
          obtain ⟨o, found, inner, ho, hcompleted⟩ := ih hwalk hbelow
          exact ⟨o, found, inner, hstems.trans ho, hcompleted⟩

/-- What comes out of inserting defaults keeps what went in. Each of its nodes
has an effective schema and extends what the walk has met there; no property
with a default is missing, and what has been added is an extension of the
default of its property. -/
theorem inserting_guarantees {v w : Value} {depth : Nat} {schema : Option Value}
    {context : Option κ}
    (h : (run defaults depth v schema context).2 = .ok w) :
    v.KeptIn w ∧
    (∀ p x, (p, x) ∈ w.nodes .root →
      ∃ r, Below ⟨w, .root, schema, context⟩ r ∧ r.pointer = p ∧ r.value = x) ∧
    ∀ r, Below ⟨w, .root, schema, context⟩ r →
      ∃ o found inner, Stems v ⟨w, .root, schema, context⟩ o r ∧
        nodeSchema r.schema r.context = .ok (found, inner) ∧
        Completed o found r.value := by
  let s : Site κ := ⟨v, .root, schema, context⟩
  have hwalk : (walkAt defaults depth s).2 = .ok w := h
  exact ⟨keptIn_of_inserting hwalk,
    fun p x hx => exists_below_of_node hwalk hx,
    fun r hr => completed_of_below hwalk hr⟩

/-- A default that is completed by the schema that its own one refers to. -/
def furnished : Value :=
  .object [("properties", .object [
      ("a", .object [("$ref", .string "#/$defs/a"),
        ("default", .object [("k", .null)])])]),
    ("$defs", .object [("a", .object [("properties", .object [
      ("b", .object [("default", .array [.bool true])])])])])]

def furnishedNode : Value :=
  .object [("x", .null),
    ("a", .object [("k", .null), ("b", .array [.bool true])])]

theorem inserting_guarantees_furnished :
    (run defaults 8 (.object [("x", .null)]) (some furnished)
      (some (Validator.lenientContext furnished))).2 = .ok furnishedNode ∧
    (Value.object [("x", .null)]).KeptIn furnishedNode ∧
    (∀ p x, (p, x) ∈ furnishedNode.nodes .root →
      ∃ r, Below ⟨furnishedNode, .root, some furnished,
          some (Validator.lenientContext furnished)⟩ r ∧
        r.pointer = p ∧ r.value = x) ∧
    ∀ r, Below ⟨furnishedNode, .root, some furnished,
        some (Validator.lenientContext furnished)⟩ r →
      ∃ o found inner,
        Stems (.object [("x", .null)]) ⟨furnishedNode, .root, some furnished,
          some (Validator.lenientContext furnished)⟩ o r ∧
        nodeSchema r.schema r.context = .ok (found, inner) ∧
        Completed o found r.value := by
  have hrun : (run defaults 8 (.object [("x", .null)]) (some furnished)
      (some (Validator.lenientContext furnished))).2 = .ok furnishedNode := by
    decide +kernel
  exact ⟨hrun, inserting_guarantees hrun⟩

end Walk

end SchemaPipeline
