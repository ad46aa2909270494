import SchemaPipeline.Proofs.Walk.Sites
import SchemaPipeline.Transform.Defaults

/-!
# Transforms that need no second run

A second walk meets other nodes than the first one: it starts from what the
first one has put in, and it meets every answer with the children that the walk
has given it. It pairs them with the same schemas in the same contexts, though,
because a schema of a child depends on the keys and the length of a node only.
A visitor is `Stable` if those decide its answer, and if what it has answered
once it leaves alone. Then a walk does not change what a walk has returned:
`walkAt_again`, by induction on the depth.

Filling what is undefined and inserting defaults are stable for one reason. Both
add members where keys are missing, and an object with all these keys stays as
it is, whatever the members are.
-/

namespace SchemaPipeline

/-- What the visitor has answered it leaves alone, with any children. -/
def Visitor.Stable (visitor : Visitor) : Prop :=
  ∀ v pointer schema u w, visitor.visit v pointer schema = .ok u →
    u.SameNode w → visitor.visit w pointer schema = .ok w

namespace Walk

variable {κ : Type} [SchemaContext κ]

/-- The walk of a stable visitor over what it has returned returns the same. -/
theorem walkAt_again {visitor : Visitor} (hstable : visitor.Stable) {depth : Nat}
    {s : Site κ} {w : Value} (h : (walkAt visitor depth s).2 = .ok w) :
    (walkAt visitor depth { s with value := w }).2 = .ok w := by
  induction depth generalizing s w with
  | zero => cases h
  | succ depth ih =>
      obtain ⟨call, u, below, outs, hopens, hresults, rfl, hlength, -⟩ :=
        walkAt_ok h
      cases hopens with
      | @intro schema context _ hschema hvisit =>
          have hsame := Value.sameNode_rebuild hlength
          have hagain := Opens.intro (s := { s with value := u.rebuild outs })
            hschema (hstable _ _ _ _ _ hvisit hsame)
          have hbelow : List.Forall₂
              (fun t w => (walkAt visitor depth t).2 = .ok w)
              (sites s.pointer schema context (u.rebuild outs)) outs := by
            rw [sites_rebuild s.pointer schema context hlength]
            exact forall₂_zipWith_right hresults fun _ _ hw => ih hw
          rw [walkAt_of_opens hagain, visitAll_of_ok hbelow]
          exact congrArg Except.ok (hsame.rebuild_eq outs)

end Walk

namespace Transform

/-! ## Adding members -/

theorem contains_iff {ms : Members} {key : String} :
    Members.contains ms key = true ↔ key ∈ Members.keys ms := by
  induction ms with
  | nil => simp [Members.contains, Members.keys]
  | cons m rest ih =>
      simp only [Members.contains, Members.keys, Members.find?,
        List.map_cons, List.mem_cons] at ih ⊢
      by_cases hkey : m.1 = key
      · simp [hkey]
      · simp [hkey, Ne.symm hkey, ih]

theorem mem_keys_addMissing {ms : Members} {key name : String} {v : Value} :
    name ∈ Members.keys (addMissing ms key v) ↔
      name ∈ Members.keys ms ∨ name = key := by
  rw [addMissing]
  split
  · next h =>
      refine ⟨.inl, ?_⟩
      rintro (h' | rfl)
      · exact h'
      · exact contains_iff.1 h
  · rw [Members.keys, List.map_append, List.mem_append]
    simp [Members.keys]

theorem mem_keys_addDefaults {ms ds : Members} {name : String} :
    name ∈ Members.keys (addDefaults ms ds) ↔
      name ∈ Members.keys ms ∨ name ∈ Members.keys ds := by
  induction ds generalizing ms with
  | nil => simp [addDefaults, Members.keys]
  | cons d rest ih =>
      have hstep : addDefaults ms (d :: rest) =
          addDefaults (addMissing ms d.1 d.2) rest := rfl
      have hkeys : Members.keys (d :: rest) = d.1 :: Members.keys rest := rfl
      rw [hstep, ih, mem_keys_addMissing, hkeys, List.mem_cons, or_assoc]

/-- Nothing is added to an object with all the keys. -/
theorem addDefaults_of_keys {ms ds : Members}
    (h : ∀ name ∈ Members.keys ds, name ∈ Members.keys ms) :
    addDefaults ms ds = ms := by
  induction ds with
  | nil => rfl
  | cons d rest ih =>
      have hfirst : addMissing ms d.1 d.2 = ms :=
        if_pos (contains_iff.2 (h d.1 List.mem_cons_self))
      have hstep : addDefaults ms (d :: rest) =
          addDefaults (addMissing ms d.1 d.2) rest := rfl
      rw [hstep, hfirst]
      exact ih fun name hname => h name (List.mem_cons_of_mem _ hname)

/-- What is added comes behind what was there: defaults for missing keys, one for
each. -/
theorem exists_addDefaults (ms ds : Members) :
    ∃ added, addDefaults ms ds = ms ++ added ∧ added.Sublist ds ∧
      (∀ m ∈ added, m.1 ∉ Members.keys ms) ∧ (Members.keys added).Nodup := by
  induction ds generalizing ms with
  | nil => exact ⟨[], (List.append_nil ms).symm, .refl _, nofun, List.nodup_nil⟩
  | cons d rest ih =>
      have hstep : addDefaults ms (d :: rest) =
          addDefaults (addMissing ms d.1 d.2) rest := rfl
      by_cases hd : d.1 ∈ Members.keys ms
      · obtain ⟨added, heq, hsublist, hfresh, hnodup⟩ := ih ms
        refine ⟨added, ?_, hsublist.cons d, hfresh, hnodup⟩
        rw [hstep, addMissing, if_pos (contains_iff.2 hd), heq]
      · have hnot : ¬ Members.contains ms d.1 = true :=
          fun h => hd (contains_iff.1 h)
        obtain ⟨added, heq, hsublist, hfresh, hnodup⟩ := ih (ms ++ [d])
        have hkeys : Members.keys (ms ++ [d]) = Members.keys ms ++ [d.1] :=
          List.map_append
        simp only [hkeys, List.mem_append, List.mem_singleton, not_or] at hfresh
        refine ⟨d :: added, ?_, hsublist.cons_cons d, ?_, ?_⟩
        · rw [hstep, addMissing, if_neg hnot, heq, List.append_assoc]
          rfl
        · intro m hm
          rcases List.mem_cons.1 hm with rfl | hm
          · exact hd
          · exact (hfresh m hm).1
        · refine List.nodup_cons.2 ⟨fun hmem => ?_, hnodup⟩
          obtain ⟨m, hm, heq⟩ := List.mem_map.1 hmem
          exact (hfresh m hm).2 heq

/-- Filling adds defaults that are all `null`. -/
theorem addAllMissing_eq (ms : Members) (names : List String) :
    addAllMissing ms names = addDefaults ms (names.map (·, .null)) := by
  rw [addAllMissing, addDefaults, List.foldl_map]

theorem keys_nulls (names : List String) :
    Members.keys (names.map (·, .null)) = names := by
  rw [Members.keys, List.map_map]
  exact List.map_id names

theorem mem_keys_addAllMissing {ms : Members} {names : List String}
    {name : String} : name ∈ Members.keys (addAllMissing ms names) ↔
      name ∈ Members.keys ms ∨ name ∈ names := by
  rw [addAllMissing_eq, mem_keys_addDefaults, keys_nulls]

theorem addAllMissing_of_keys {ms : Members} {names : List String}
    (h : ∀ name ∈ names, name ∈ Members.keys ms) :
    addAllMissing ms names = ms := by
  rw [addAllMissing_eq]
  exact addDefaults_of_keys (by rwa [keys_nulls])

/-! ## The two transforms -/

/-- After the defaults are in, none of their keys is missing. -/
theorem insertDefaults_of_sameNode {v w schema : Value}
    (h : (insertDefaults v (some schema)).SameNode w) :
    insertDefaults w (some schema) = w := by
  cases w with
  | object ns =>
      cases v with
      | object ms =>
          have hkeys : Members.keys (addDefaults ms (declaredDefaults schema)) =
              Members.keys ns := h
          rw [insertDefaults, addDefaults_of_keys]
          intro name hname
          rw [← hkeys]
          exact mem_keys_addDefaults.2 (.inr hname)
      | _ => cases h
  | _ => rfl

theorem defaults_stable : defaults.Stable := by
  intro v pointer schema u w hvisit hsame
  cases hvisit
  cases schema with
  | none => cases w <;> rfl
  | some schema => exact congrArg Except.ok (insertDefaults_of_sameNode hsame)

/-- What filling makes of a node, with what the schema says of it. -/
inductive Fills (schema : Members) : Value → Value → Prop where
  | kept {v : Value}
      (hnull : v = .null → admitsNull schema = false →
        isArrayLike schema = false ∧ isObjectLike schema = false)
      (hobject : v.isObject = true → isObjectLike schema = false) :
      Fills schema v v
  | toArray (hadmits : admitsNull schema = false)
      (harray : isArrayLike schema = true) : Fills schema .null (.array [])
  | toObject (hadmits : admitsNull schema = false)
      (harray : isArrayLike schema = false)
      (hobject : isObjectLike schema = true) :
      Fills schema .null
        (.object (addAllMissing [] (declaredProperties schema)))
  | added {ms : Members} (hobject : isObjectLike schema = true) :
      Fills schema (.object ms)
        (.object (addAllMissing ms (declaredProperties schema)))

theorem fill_fills (schema : Members) (v : Value) :
    Fills schema v (fill schema v) := by
  cases v with
  | null =>
      rw [fill]
      cases hadmits : admitsNull schema with
      | true => exact .kept (fun _ h => by cases hadmits.symm.trans h) nofun
      | false =>
          cases harray : isArrayLike schema with
          | true => exact .toArray hadmits harray
          | false =>
              cases hobject : isObjectLike schema with
              | true => exact .toObject hadmits harray hobject
              | false => exact .kept (fun _ _ => ⟨harray, hobject⟩) nofun
  | object ms =>
      rw [fill]
      cases hobject : isObjectLike schema with
      | true => exact .added hobject
      | false => exact .kept nofun fun _ => hobject
  | _ => exact .kept nofun nofun

/-- A filled object has every declared property. -/
theorem Fills.declared {schema ns : Members} {v u : Value}
    (h : Fills schema v u) (hsame : u.SameNode (.object ns))
    (hobject : isObjectLike schema = true) :
    ∀ name ∈ declaredProperties schema, name ∈ Members.keys ns := by
  intro name hname
  have hkeys : ∀ ms : Members, Members.keys
      (addAllMissing ms (declaredProperties schema)) = Members.keys ns →
      name ∈ Members.keys ns := fun ms heq =>
    heq ▸ mem_keys_addAllMissing.2 (.inr hname)
  cases h with
  | kept _ hkept =>
      cases v with
      | object ms => cases hobject.symm.trans (hkept rfl)
      | _ => cases hsame
  | toArray => cases hsame
  | toObject => exact hkeys [] hsame
  | @added ms => exact hkeys ms hsame

/-- A filled node is not filled again: it is no `null` that its schema wants
replaced, and an object has every declared property. -/
theorem fill_of_sameNode {schema : Members} {v w : Value}
    (h : (fill schema v).SameNode w) : fill schema w = w := by
  cases w with
  | null =>
      have hfills := fill_fills schema v
      cases hfill : fill schema v with
      | null =>
          rw [hfill] at hfills
          cases hfills
          exact hfill
      | _ =>
          rw [hfill] at h
          cases h
  | object ns =>
      by_cases hobject : isObjectLike schema = true
      · rw [fill, if_pos hobject, addAllMissing_of_keys
          ((fill_fills schema v).declared h hobject)]
      · rw [fill, if_neg hobject]
  | _ => rfl

theorem filling_stable : filling.Stable := by
  intro v pointer schema u w hvisit hsame
  cases hvisit
  cases schema with
  | none => rfl
  | some schema =>
      cases schema with
      | object ms => exact congrArg Except.ok (fill_of_sameNode hsame)
      | _ => rfl

end Transform

namespace Walk

variable {κ : Type} [SchemaContext κ]

/-- Both built-in transforms return what they have returned: a value that comes
out of a walk goes through a second one unchanged, the order of its keys
included, within the depth of the first and every larger one. -/
theorem transforms_idempotent (v w : Value) (schema : Option Value)
    (context : Option κ) (depth depth' : Nat) :
    ((run Transform.filling depth v schema context).2 = .ok w →
      depth ≤ depth' →
      (run Transform.filling depth' w schema context).2 = .ok w) ∧
    ((run Transform.defaults depth v schema context).2 = .ok w →
      depth ≤ depth' →
      (run Transform.defaults depth' w schema context).2 = .ok w) := by
  have hrun : ∀ visitor : Visitor, visitor.Stable →
      (run visitor depth v schema context).2 = .ok w → depth ≤ depth' →
      (run visitor depth' w schema context).2 = .ok w := by
    intro visitor hstable h hdepth
    let s : Site κ := ⟨v, .root, schema, context⟩
    have hagain : (walkAt visitor depth { s with value := w }).2 = .ok w :=
      walkAt_again hstable h
    have hmono := walkAt_mono hdepth (s := { s with value := w })
      (by rw [hagain]; exact fun h => nomatch h)
    exact (congrArg Prod.snd hmono).trans hagain
  exact ⟨hrun _ Transform.filling_stable, hrun _ Transform.defaults_stable⟩

end Walk

end SchemaPipeline
