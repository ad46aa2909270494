import SchemaPipeline.Proofs.Transform.Inserted

/-!
# Where inserted defaults come from

The walk follows the references of a node before it calls the visitor, but the
visitor reads the schemas of the properties as they are written. A property
whose schema is a reference is therefore seen in two ways: what it refers to
counts when the walk comes to the property, and what is written beside the
reference counts when the visitor looks for defaults. The default of the schema
that is referred to is never put in. A default beside the reference is, like
that of any other property (`inserts_iff`), and this is the only way in which a
reference contributes anything.

What holds of a single call is carried to the whole walk in
`exists_call_of_node`. Every node of the result has been met by a call, and what
the call has met is a node of the value, or of a default that an earlier call
put in further up. The induction is on the depth; an entry of an answer is an
entry of the node before or a default that was put in there.
-/

namespace SchemaPipeline

open Walk

namespace Transform

/-! ## A single call -/

/-- This is the one schema that is written for this name under `properties`. -/
def DeclaresOnly (found : Option Value) (name : String) (property : Value) : Prop :=
  ∃ schema ps, found = some schema ∧
    schema.get? "properties" = some (.object ps) ∧
    ∀ other, (name, other) ∈ ps ↔ other = property

/-- The visitor adds this member to the object that it is called with. -/
def Inserts (c : Call) (name : String) (default : Value) : Prop :=
  ∃ ms added, c.value = .object ms ∧
    defaults.visit c.value c.pointer c.schema = .ok (.object (ms ++ added)) ∧
    (name, default) ∈ added

/-- As long as names are distinct, what is declared is what is found. -/
theorem declaresOnly_of_find? {schema property : Value} {ps : Members} {name : String}
    (hps : schema.get? "properties" = some (.object ps))
    (hdistinct : (Members.keys ps).Nodup)
    (hfind : Members.find? ps name = some property) :
    DeclaresOnly (some schema) name property := by
  refine ⟨schema, ps, rfl, hps, fun other => ⟨fun hother => ?_, ?_⟩⟩
  · have hsame := Members.find?_of_mem hdistinct hother
    exact Option.some.inj (hsame.symm.trans hfind)
  · rintro rfl
    exact Members.mem_of_find? hfind

theorem DeclaresOnly.hasDefault_iff {found : Option Value} {name : String}
    {property default : Value} (h : DeclaresOnly found name property) :
    HasDefault found name default ↔ property.get? "default" = some default := by
  obtain ⟨schema, ps, rfl, hps, honly⟩ := h
  constructor
  · rintro ⟨_, qs, other, ⟨⟩, hqs, hother, hdefault⟩
    cases hps.symm.trans hqs
    rwa [← (honly other).1 hother]
  · intro hdefault
    exact ⟨schema, ps, property, rfl, hps, (honly property).2 rfl, hdefault⟩

theorem inserts_iff_mem {c : Call} {ms added : Members} {name : String}
    {default : Value} (hvalue : c.value = .object ms)
    (hadded : insertDefaults c.value c.schema = .object (ms ++ added)) :
    Inserts c name default ↔ (name, default) ∈ added := by
  have hvisit : defaults.visit c.value c.pointer c.schema =
      .ok (.object (ms ++ added)) := congrArg Except.ok hadded
  constructor
  · rintro ⟨old, more, hold, hmore, hmem⟩
    cases hvalue.symm.trans hold
    have heq := Value.object.inj (Except.ok.inj (hvisit.symm.trans hmore))
    rwa [List.append_cancel_left heq]
  · exact fun hmem => ⟨ms, added, hvalue, hvisit, hmem⟩

/-- A default is put in exactly if it is written in the schema of the property
and the property is not there. -/
theorem inserts_iff {c : Call} {ms : Members} {name : String}
    {property default : Value} (hvalue : c.value = .object ms)
    (h : DeclaresOnly c.schema name property) :
    Inserts c name default ↔
      name ∉ Members.keys ms ∧ property.get? "default" = some default := by
  obtain ⟨added, hadded, hsupply⟩ := exists_supply ms c.schema
  rw [← hvalue] at hadded
  rw [inserts_iff_mem hvalue hadded, ← h.hasDefault_iff]
  constructor
  · intro hmem
    exact ⟨hsupply.fresh _ hmem, hsupply.source _ hmem⟩
  · rintro ⟨hfresh, hdefault⟩
    have hname := (hsupply.complete name default hdefault).resolve_left hfresh
    obtain ⟨⟨_, other⟩, hmem, rfl⟩ := List.mem_map.1 hname
    have hother := h.hasDefault_iff.1 (hsupply.source _ hmem)
    rw [h.hasDefault_iff] at hdefault
    cases hother.symm.trans hdefault
    exact hmem

/-! ## What calls meet -/

/-- What is met at a place: a node of the value at the start, or of a default
that a call has put in at an enclosing node. -/
inductive Origin (v : Value) (start : Pointer) (trace : Trace) (p : Pointer)
    (o : Value) : Prop where
  | data (h : (p, o) ∈ v.nodes start)
  | inserted {c : Call} {name : String} {default : Value} (hc : c ∈ trace)
      (hinserts : Inserts c name default)
      (h : (p, o) ∈ default.nodes (c.pointer.push name))

/-- The members of an object of the result, where there is one, extend what its
call has met, or defaults that this call has put in. -/
def Sourced (c : Call) (x : Value) : Prop :=
  ∀ ms, x = .object ms → ∀ m ∈ ms,
    (∃ y, (m.1, y) ∈ c.value.entries ∧ y.KeptIn m.2) ∨
      ∃ default, Inserts c m.1 default ∧ default.KeptIn m.2

/-- An entry of an answer was there before, or it is put in. -/
theorem mem_entries_or_inserts {c : Call} {token : String} {t : Value}
    (h : (token, t) ∈ (insertDefaults c.value c.schema).entries) :
    (token, t) ∈ c.value.entries ∨ Inserts c token t := by
  cases hvalue : c.value with
  | object ms =>
      obtain ⟨added, hadded, -⟩ := exists_supply ms c.schema
      rw [← hvalue] at hadded
      rw [hadded] at h
      exact (List.mem_append.1 h).imp_right (inserts_iff_mem hvalue hadded).2
  | _ =>
      rw [hvalue] at h
      exact .inl h

theorem sourced_rebuild {c : Call} {vs : List Value}
    (hvs : List.Forall₂ Value.KeptIn
      (insertDefaults c.value c.schema).children vs) :
    Sourced c ((insertDefaults c.value c.schema).rebuild vs) := by
  intro ns hns m hm
  cases hanswer : insertDefaults c.value c.schema with
  | object us =>
      rw [hanswer] at hvs hns
      cases hns
      obtain ⟨y, hy, hkept⟩ := (Members.Paired.of_values hvs).exists_of_mem hm
      have hentry : (m.1, y) ∈ (insertDefaults c.value c.schema).entries := by
        rw [hanswer]
        exact hy
      exact (mem_entries_or_inserts hentry).imp (fun h => ⟨y, h, hkept⟩)
        fun h => ⟨y, h, hkept⟩
  | _ =>
      rw [hanswer] at hns
      cases hns

/-- What is met below an entry of an answer is met below its node. -/
theorem Origin.of_entry {c : Call} {token : String} {t : Value}
    {trace more : Trace} {p : Pointer} {o : Value}
    (h : Origin t (c.pointer.push token) more p o)
    (hentry : (token, t) ∈ (insertDefaults c.value c.schema).entries)
    (hc : c ∈ trace) (hmore : more ⊆ trace) :
    Origin c.value c.pointer trace p o := by
  cases h with
  | inserted hcall hinserts h => exact .inserted (hmore hcall) hinserts h
  | data h =>
      rcases mem_entries_or_inserts hentry with hold | hinserts
      · refine .data ?_
        rw [nodes_entries]
        exact List.mem_cons_of_mem _ (List.mem_flatMap.2 ⟨_, hold, h⟩)
      · exact .inserted hc hinserts h

end Transform

namespace Walk

open Transform

variable {κ : Type} [SchemaContext κ]

/-- Every node of a result has been met by a call, which says where it comes
from. -/
theorem exists_call_of_node {depth : Nat} {s : Site κ} {w : Value}
    (h : (walkAt defaults depth s).2 = .ok w) {p : Pointer} {x : Value}
    (hx : (p, x) ∈ w.nodes s.pointer) :
    ∃ c ∈ (walkAt defaults depth s).1, c.pointer = p ∧
      Origin s.value s.pointer (walkAt defaults depth s).1 p c.value ∧
      Sourced c x := by
  induction depth generalizing s w with
  | zero => cases h
  | succ depth ih =>
      obtain ⟨call, u, below, outs, hopens, hresults, rfl, hlength, htrace⟩ :=
        walkAt_ok h
      rw [htrace]
      cases hopens with
      | @intro found inner _ hschema hvisit =>
          cases hvisit
          rw [nodes_eq s.pointer found inner] at hx
          rcases List.mem_cons.1 hx with heq | hbelow
          · cases heq
            refine ⟨_, List.mem_cons_self, rfl, .data ?_, sourced_rebuild ?_⟩
            · rw [nodes_entries]
              exact List.mem_cons_self
            · rw [← map_value_sites s.pointer found inner,
                List.forall₂_map_left_iff]
              exact hresults.imp fun t y hy => keptIn_of_inserting hy
          · obtain ⟨t', ht', hx⟩ := List.mem_flatMap.1 hbelow
            rw [sites_rebuild s.pointer found inner hlength] at ht'
            obtain ⟨t, ht, y, hy, rfl⟩ := exists_of_mem_zipWith hresults ht'
            obtain ⟨c, hc, hpointer, horigin, hsourced⟩ := ih hy hx
            obtain ⟨token, hentry, htoken⟩ := entry_of_mem_sites ht
            have hmore : (walkAt defaults depth t).1 ⊆
                (sites s.pointer found inner _).flatMap
                  fun t => (walkAt defaults depth t).1 :=
              fun d hd => List.mem_flatMap.2 ⟨t, ht, hd⟩
            rw [htoken] at horigin
            refine ⟨c, List.mem_cons_of_mem _ (hmore hc), hpointer, ?_, hsourced⟩
            exact Origin.of_entry (c := ⟨s.pointer, s.value, found⟩) horigin
              hentry List.mem_cons_self
              fun d hd => List.mem_cons_of_mem _ (hmore hd)

/-- What a property whose schema is a reference contributes. At every call,
whether the walk succeeds or not, it is added exactly if it is not there and a
default is written beside the reference, and what is added is this default. In
what comes out of the walk, a property with such a schema comes from what the
call has met, which is a node of the value or of a default that was put in at an
enclosing node, or from the default beside the reference. -/
theorem reference_contributes_iff (depth : Nat) (v : Value)
    (schema : Option Value) (context : Option κ) :
    (∀ c ∈ (run defaults depth v schema context).1, ∀ ms,
      c.value = .object ms → ∀ name property reference,
        DeclaresOnly c.schema name property →
        Schema.reference? property = some reference →
        ∀ default, Inserts c name default ↔
          name ∉ Members.keys ms ∧ property.get? "default" = some default) ∧
    ∀ w, (run defaults depth v schema context).2 = .ok w →
      ∀ p ms, (p, .object ms) ∈ w.nodes .root →
        ∃ c ∈ (run defaults depth v schema context).1, c.pointer = p ∧
          Origin v .root (run defaults depth v schema context).1 p c.value ∧
          ∀ name property reference, DeclaresOnly c.schema name property →
            Schema.reference? property = some reference →
            ∀ x, (name, x) ∈ ms →
              (∃ y, (name, y) ∈ c.value.entries ∧ y.KeptIn x) ∨
                ∃ default, property.get? "default" = some default ∧
                  name ∉ c.value.keys ∧ default.KeptIn x := by
  refine ⟨fun c _ ms hvalue name property _ hdeclares _ default =>
    inserts_iff hvalue hdeclares, fun w hw p ms hx => ?_⟩
  obtain ⟨c, hc, hpointer, horigin, hsourced⟩ :=
    exists_call_of_node (s := ⟨v, .root, schema, context⟩) hw hx
  refine ⟨c, hc, hpointer, horigin, fun name property _ hdeclares _ x hx => ?_⟩
  refine (hsourced ms rfl _ hx).imp_right ?_
  rintro ⟨default, hinserts, hkept⟩
  have ⟨old, _, hvalue, _⟩ := hinserts
  obtain ⟨hfresh, hdefault⟩ := (inserts_iff hvalue hdeclares).1 hinserts
  exact ⟨default, hdefault, by rw [hvalue]; exact hfresh, hkept⟩

/-- A property with a default beside the reference. What is referred to has
none. -/
def overridden : Value :=
  .object [("properties", .object [
      ("a", .object [("$ref", .string "#/$defs/a"), ("default", .ofInt 1)])]),
    ("$defs", .object [("a", .object [("type", .string "integer")])])]

/-- A property whose schema is a reference is added at the root of an empty
object. -/
theorem exists_contributed :
    (run defaults 8 (.object []) (some overridden)
        (some (Validator.lenientContext overridden))).2 =
      .ok (.object [("a", .ofInt 1)]) ∧
    ∃ c ∈ (run defaults 8 (.object []) (some overridden)
        (some (Validator.lenientContext overridden))).1,
      ∃ property, DeclaresOnly c.schema "a" property ∧
        Schema.reference? property = some "#/$defs/a" ∧
        Inserts c "a" (.ofInt 1) := by
  have hopens : Opens defaults
      ⟨.object [], .root, some overridden,
        some (Validator.lenientContext overridden)⟩
      ⟨.root, .object [], some overridden⟩ _ _ := .intro rfl rfl
  have hfirst : ⟨.root, .object [], some overridden⟩ ∈ (walkAt defaults 8
      ⟨.object [], .root, some overridden,
        some (Validator.lenientContext overridden)⟩).1 := by
    rw [walkAt_of_opens hopens]
    exact List.mem_cons_self
  have hdeclares : DeclaresOnly (some overridden) "a"
      (.object [("$ref", .string "#/$defs/a"), ("default", .ofInt 1)]) :=
    declaresOnly_of_find? rfl (by decide) rfl
  exact ⟨by decide +kernel, _, hfirst, _, hdeclares, rfl,
    (inserts_iff rfl hdeclares).2 ⟨by decide, rfl⟩⟩

end Walk

end SchemaPipeline
