import Mathlib.Data.List.Forall2
import Mathlib.Data.List.Nodup
import SchemaPipeline.Proofs.Engine.Table
import SchemaPipeline.Proofs.Registry.Coverage

/-!
# Resources under their addresses

An embedded resource is entered into the table under the address that its
identifiers lead to, and it is looked up by following the same identifiers from
document to document. The two agree as long as both start from the same base,
and then every resource is found.

They start from the base of the document, but the table does not stop there: it
joins the identifier of the root to this base once more. An identifier that is
absent, absolute or a file name leads to the same address again. One with a
directory does not, and then what is embedded under a relative identifier is
entered where nobody looks for it.
-/

namespace SchemaPipeline

/-! ## Bases without their fragments -/

namespace Url

variable (b : Url) (f : Option String) (cs : List Char)

theorem readFile_fragment :
    readFile (some { b with fragment := f }) cs = readFile (some b) cs := by
  cases cs <;> rfl

theorem readRelative_fragment :
    readRelative { b with fragment := f } cs = readRelative b cs := by
  unfold readRelative
  split <;> rfl

theorem readWithScheme_fragment (scheme : String) :
    readWithScheme (some { b with fragment := f }) scheme cs =
      readWithScheme (some b) scheme cs := by
  unfold readWithScheme
  cases hscheme : b.scheme == scheme with
  | true =>
      simp only [baseOfScheme, Option.filter_some, hscheme, if_true,
        readFile_fragment, readRelative_fragment]
  | false =>
      simp only [baseOfScheme, Option.filter_some, hscheme, Bool.false_eq_true,
        if_false]

/-- A reference is resolved without regard to the fragment of the base. -/
theorem join?_fragment (text : String) :
    join? { b with fragment := f } text = b.join? text := by
  simp only [join?, join, parseWith]
  generalize significant text = cs
  cases readScheme cs with
  | some p => exact congrArg _ (readWithScheme_fragment ..)
  | none =>
      simp only [readFile_fragment, readRelative_fragment]
      rfl

/-- A name that is read as the URL it was made from, without the fragment. -/
def ReadBack (u : Url) : Prop :=
  parse? (Reference.normalize u.text) = some { u with fragment := none }

instance (u : Url) : Decidable u.ReadBack :=
  inferInstanceAs (Decidable (_ = _))

end Url

namespace Schema

/-! ## The resources of a schema -/

mutual

/-- The resources inside a schema with the identifiers that lead to them, in
document order. -/
def embedded (scope : List String) : SchemaTree → List (List String × Value)
  | .node _ cs => embeddedAll scope cs

def embeddedAll (scope : List String) :
    List SchemaTree → List (List String × Value)
  | [] => []
  | .node s cs :: rest =>
    (match resourceId? s with
     | some id =>
       (scope ++ [id], s) :: embedded (scope ++ [id]) (.node s cs)
     | none => embedded scope (.node s cs)) ++ embeddedAll scope rest

end

/-- The resources inside a document. -/
def inner (schema : Value) : List (List String × Value) :=
  embedded [] schema.schemaTree

/-- A document and the resources inside it. -/
def resources (schema : Value) : List (List String × Value) :=
  ([], schema) :: inner schema

mutual

theorem gather_scopes : ∀ (t : SchemaTree) (scope : List String),
    (gather scope t).2.map ResourceReferences.scope =
      (embedded scope t).map Prod.fst
  | .node s cs, scope => by
      rw [gather, embedded, Gathered.append, List.nil_append]
      exact gatherAll_scopes cs scope
termination_by structural t => t

theorem gatherAll_scopes : ∀ (ts : List SchemaTree) (scope : List String),
    (gatherAll scope ts).2.map ResourceReferences.scope =
      (embeddedAll scope ts).map Prod.fst
  | [], scope => by rw [gatherAll, embeddedAll, List.map_nil, List.map_nil]
  | .node s cs :: rest, scope => by
      rw [gatherAll, embeddedAll, Gathered.append, List.map_append,
        List.map_append, gatherAll_scopes rest scope]
      congr 1
      cases resourceId? s with
      | some id =>
          exact congrArg (_ :: ·) (gather_scopes (.node s cs) (scope ++ [id]))
      | none => exact gather_scopes (.node s cs) scope
termination_by structural ts => ts

end

/-- The references are grouped by the resources of the document. -/
theorem collectReferences_scopes (schema : Value) :
    (collectReferences schema).map ResourceReferences.scope =
      (resources schema).map Prod.fst :=
  congrArg ([] :: ·) (gather_scopes schema.schemaTree [])

/-! Around a resource there is always another one. -/

mutual

theorem embedded_around : ∀ (t : SchemaTree) (scope : List String)
    (e : List String × Value), e ∈ embedded scope t →
    ∃ outer id, e.1 = outer ++ [id] ∧ resourceId? e.2 = some id ∧
      (outer = scope ∨ ∃ s, (outer, s) ∈ embedded scope t)
  | .node s cs, scope, e, he => by
      rw [embedded] at he ⊢
      exact embeddedAll_around cs scope e he
termination_by structural t => t

theorem embeddedAll_around : ∀ (ts : List SchemaTree) (scope : List String)
    (e : List String × Value), e ∈ embeddedAll scope ts →
    ∃ outer id, e.1 = outer ++ [id] ∧ resourceId? e.2 = some id ∧
      (outer = scope ∨ ∃ s, (outer, s) ∈ embeddedAll scope ts)
  | [], scope, e, he => by
      rw [embeddedAll] at he
      cases he
  | .node s cs :: rest, scope, e, he => by
      rw [embeddedAll] at he ⊢
      rcases List.mem_append.1 he with he | he
      · cases hid : resourceId? s with
        | none =>
            rw [hid] at he
            obtain ⟨outer, id, heq, hlast, houter⟩ :=
              embedded_around (.node s cs) scope e he
            exact ⟨outer, id, heq, hlast, houter.imp_right
              fun ⟨w, hw⟩ => ⟨w, List.mem_append_left _ hw⟩⟩
        | some own =>
            rw [hid] at he
            rcases List.mem_cons.1 he with rfl | he
            · exact ⟨scope, own, rfl, hid, .inl rfl⟩
            · obtain ⟨outer, id, heq, hlast, houter⟩ :=
                embedded_around (.node s cs) (scope ++ [own]) e he
              refine ⟨outer, id, heq, hlast, .inr ?_⟩
              rcases houter with rfl | ⟨w, hw⟩
              · exact ⟨s, List.mem_append_left _ List.mem_cons_self⟩
              · exact ⟨w, List.mem_append_left _ (List.mem_cons_of_mem _ hw)⟩
      · obtain ⟨outer, id, heq, hlast, houter⟩ :=
          embeddedAll_around rest scope e he
        exact ⟨outer, id, heq, hlast, houter.imp_right
          fun ⟨w, hw⟩ => ⟨w, List.mem_append_right _ hw⟩⟩
termination_by structural ts => ts

end

/-- A resource is the document, or it declares the last identifier of its scope
inside another resource. -/
theorem resources_around {schema : Value} {e : List String × Value}
    (he : e ∈ inner schema) : ∃ outer id s, e.1 = outer ++ [id] ∧
      resourceId? e.2 = some id ∧ (outer, s) ∈ resources schema := by
  obtain ⟨outer, id, heq, hlast, rfl | ⟨s, hs⟩⟩ :=
    embedded_around schema.schemaTree [] e he
  · exact ⟨[], id, schema, heq, hlast, List.mem_cons_self⟩
  · exact ⟨outer, id, s, heq, hlast, List.mem_cons_of_mem _ hs⟩

/-! ## Addresses -/

/-- Where identifiers lead, one joined to the other. -/
def addressFrom (base : Option Url) (scope : List String) : Option Url :=
  scope.foldl (fun b id => b.bind (·.join? id)) base

/-- The address of a resource, from the base of the document on. -/
def address (schema : Value) (scope : List String) : Option Url :=
  addressFrom (baseUrl? schema) scope

/-- The name of a resource: its address without the fragment. -/
def nameOf (schema : Value) (scope : List String) : Option String :=
  (address schema scope).map fun u => Reference.normalize u.text

theorem addressFrom_append (base : Option Url) (outer : List String)
    (id : String) : addressFrom base (outer ++ [id]) =
      (addressFrom base outer).bind (·.join? id) := by
  rw [addressFrom, List.foldl_append]
  rfl

/-- Identifiers that lead to addresses with names of their own. -/
structure Addressed (schema : Value) : Prop where
  joined : ∀ e ∈ resources schema, (address schema e.1).isSome = true
  distinct : ((resources schema).map fun e => nameOf schema e.1).Nodup
  readBack : ∀ e ∈ inner schema, ∀ u ∈ address schema e.1, u.ReadBack

/-- The base that the table of a document starts from: the identifier of the
document is joined to its base again. -/
def tableBase? (schema : Value) : Option Url :=
  (baseUrl? schema).map (innerBase · schema)

/-- It makes no difference to the resources inside that the identifier of the
document is joined again: directly inside, the same identifiers lead to the same
addresses, and the document is not entered under the name of a resource. -/
structure Steady (schema : Value) : Prop where
  inside : ∀ e ∈ inner schema, ∀ id, e.1 = [id] →
    (tableBase? schema).bind (·.join? id) =
      (baseUrl? schema).bind (·.join? id)
  apart : ∀ e ∈ inner schema,
    (baseUrl? schema).bind (declaredName? · schema) ≠ nameOf schema e.1

/-- Where the identifier of the document leads to its base again, nothing is
amiss. -/
theorem Steady.of_tableBase? {schema : Value} (haddressed : Addressed schema)
    (h : tableBase? schema = baseUrl? schema) : Steady schema where
  inside _ _ _ _ := by rw [h]
  apart e he heq := by
    have hdistinct := haddressed.distinct
    rw [resources, List.map_cons, List.nodup_cons] at hdistinct
    refine hdistinct.1 (List.mem_map.2 ⟨e, he, ?_⟩)
    have hjoined := haddressed.joined e (List.mem_cons_of_mem _ he)
    obtain ⟨u, hu⟩ := Option.isSome_iff_exists.1 hjoined
    rw [nameOf, hu] at heq ⊢
    rw [← heq, nameOf, show address schema [] = baseUrl? schema from rfl]
    obtain ⟨base, hbase, hname⟩ := Option.bind_eq_some_iff.1 heq
    obtain ⟨own, hown, -⟩ := Option.map_eq_some_iff.1 hname
    rw [tableBase?, hbase, Option.map_some, innerBase, hown] at h
    have hsame : own = base := Option.some.inj h
    rw [hbase, Option.bind_some, declaredName?, hown, hsame]

/-! ## What the table holds -/

mutual

/-- What is embedded is declared under its address. -/
theorem declaredAll_children (root : Option Url) :
    ∀ (t : SchemaTree) (scope : List String) (base around : Url),
    addressFrom root scope = some around →
    (∀ e ∈ embedded scope t, (addressFrom root e.1).isSome = true) →
    (∀ e ∈ embedded scope t, ∀ id, e.1 = scope ++ [id] →
      base.join? id = around.join? id) →
    (declaredAll base t.children).map (Prod.map some id) =
      (embedded scope t).map fun e =>
        ((addressFrom root e.1).map fun u => Reference.normalize u.text, e.2)
  | .node s cs, scope, base, around, hscope, hjoined, hsame => by
      rw [embedded] at hjoined hsame ⊢
      exact declaredAll_eq root cs scope base around hscope hjoined hsame
termination_by structural t => t

theorem declaredAll_eq (root : Option Url) :
    ∀ (ts : List SchemaTree) (scope : List String) (base around : Url),
    addressFrom root scope = some around →
    (∀ e ∈ embeddedAll scope ts, (addressFrom root e.1).isSome = true) →
    (∀ e ∈ embeddedAll scope ts, ∀ id, e.1 = scope ++ [id] →
      base.join? id = around.join? id) →
    (declaredAll base ts).map (Prod.map some id) =
      (embeddedAll scope ts).map fun e =>
        ((addressFrom root e.1).map fun u => Reference.normalize u.text, e.2)
  | [], scope, base, around, hscope, hjoined, hsame => by
      rw [declaredAll, embeddedAll, List.map_nil, List.map_nil]
  | .node s cs :: rest, scope, base, around, hscope, hjoined, hsame => by
      rw [embeddedAll] at hjoined hsame
      rw [declaredAll, embeddedAll, List.map_append, List.map_append,
        declaredAll_eq root rest scope base around hscope
          (fun e he => hjoined e (List.mem_append_right _ he))
          (fun e he => hsame e (List.mem_append_right _ he))]
      congr 1
      have hjoined := fun e he => hjoined e (List.mem_append_left _ he)
      have hsame := fun e he => hsame e (List.mem_append_left _ he)
      rw [declared]
      cases hid : resourceId? s with
      | none =>
          rw [hid] at hjoined hsame
          simp only [declaredName?, innerBase, hid, Option.bind_none,
            Option.map_none, Option.toList_none, List.nil_append,
            Option.getD_none]
          exact declaredAll_children root (.node s cs) scope base around hscope
            hjoined hsame
      | some own =>
          rw [hid] at hjoined hsame
          -- The table joins the identifier to a base that leads to the address.
          have hown : base.join? own = around.join? own :=
            hsame _ List.mem_cons_self own rfl
          have haddress : addressFrom root (scope ++ [own]) =
              around.join? own := by
            rw [addressFrom_append, hscope, Option.bind_some]
          obtain ⟨u, hu⟩ := Option.isSome_iff_exists.1
            (hjoined _ List.mem_cons_self)
          rw [haddress] at hu
          simp only [declaredName?, innerBase, hid, Option.bind_some, hown, hu,
            Option.map_some, Option.toList_some, List.singleton_append,
            Option.getD_some, List.map_cons, haddress]
          refine congrArg (_ :: ·) ?_
          exact declaredAll_children root (.node s cs) (scope ++ [own]) u u
            (haddress.trans hu)
            (fun e he => hjoined e (List.mem_cons_of_mem _ he))
            (fun _ _ _ _ => rfl)
termination_by structural ts => ts

end

theorem schemaTree_eq (schema : Value) :
    ∃ cs, schema.schemaTree = .node schema cs := by
  cases schema <;> exact ⟨_, rfl⟩

/-- Apart from the document itself, the table of a document holds the embedded
resources, each under its name. -/
theorem declared_inner {schema : Value} (haddressed : Addressed schema)
    (hsteady : Steady schema) {base : Url} (hbase : baseUrl? schema = some base) :
    ∃ declaredInside : List (String × Value),
      declared base schema.schemaTree =
        ((declaredName? base schema).map (·, schema)).toList ++
          declaredInside ∧
      declaredInside.map (Prod.map some id) =
        (inner schema).map fun e => (nameOf schema e.1, e.2) := by
  obtain ⟨cs, htree⟩ := schemaTree_eq schema
  have hinner : inner schema = embeddedAll [] cs := by
    rw [inner, htree, embedded]
  refine ⟨declaredAll (innerBase base schema) cs, by rw [htree, declared], ?_⟩
  rw [hinner]
  refine declaredAll_eq (baseUrl? schema) cs [] _ base hbase
    (fun e he => haddressed.joined e (List.mem_cons_of_mem _ (hinner ▸ he)))
    (fun e he id heq => ?_)
  have hinside := hsteady.inside e (hinner ▸ he) id heq
  rwa [tableBase?, hbase, Option.map_some, Option.bind_some, Option.bind_some]
    at hinside

theorem find?_inner {schema : Value} (haddressed : Addressed schema)
    (hsteady : Steady schema) (given : Documents) {e : List String × Value}
    (he : e ∈ inner schema) {name : String}
    (hname : nameOf schema e.1 = some name) :
    (Documents.known schema given).find? name = some e.2 := by
  obtain ⟨base, hbase⟩ : ∃ base, baseUrl? schema = some base :=
    Option.isSome_iff_exists.1
      (haddressed.joined ([], schema) List.mem_cons_self)
  obtain ⟨inside, hdeclared, hinside⟩ :=
    declared_inner haddressed hsteady hbase
  have hmem : (name, e.2) ∈ inside := by
    have : (some name, e.2) ∈ inside.map (Prod.map some id) := by
      rw [hinside, ← hname]
      exact List.mem_map_of_mem he
    obtain ⟨⟨n, s⟩, hmem, heq⟩ := List.mem_map.1 this
    cases heq
    exact hmem
  have hnodup : (inside.map Prod.fst).Nodup := by
    refine List.Nodup.of_map some ?_
    have hfst := congrArg (List.map Prod.fst) hinside
    simp only [List.map_map] at hfst ⊢
    have hdistinct := haddressed.distinct
    rw [resources, List.map_cons, List.nodup_cons] at hdistinct
    exact hfst ▸ hdistinct.2
  have hroot : Members.find?
      ((declaredName? base schema).map (·, schema)).toList name = none := by
    have hapart := hsteady.apart e he
    rw [hbase, Option.bind_some, hname] at hapart
    cases hown : declaredName? base schema with
    | none => rfl
    | some own =>
        have hne : own ≠ name := fun heq => hapart (by rw [hown, heq])
        simp [Members.find?, hne]
  rw [Documents.find?_known, Documents.own, Documents.known]
  simp only [hbase, Documents.empty, List.foldl_nil, indexResources]
  rw [Documents.find?_insertAllNew, hdeclared, Members.find?_append, hroot,
    Option.none_or, Members.find?_of_mem hnodup hmem]
  rfl

end Schema

/-! ## Following identifiers -/

namespace DocumentContext

open Schema

variable {J : Judge}

theorem reach_append (c : DocumentContext J) (references : List String)
    (reference : String) : c.reach (references ++ [reference]) =
      (c.reach references).bind (·.document? reference) := by
  induction references generalizing c with
  | nil =>
      exact Option.bind_fun_some _
  | cons first rest ih =>
      rw [List.cons_append, reach, reach]
      cases c.document? first with
      | none => rfl
      | some d => exact ih d

/-- The context of a resource of a document, in the table of the document. -/
structure At (document : Value) (given : Documents) (e : List String × Value)
    (c : DocumentContext J) : Prop where
  known : c.known = Documents.known document given
  schema : c.schema = e.2
  base : ∀ id, c.base.bind (·.join? id) =
    (address document e.1).bind (·.join? id)

theorem At.of_context {settings : Settings} {schema : Value}
    {given : Documents} {c : DocumentContext J}
    (h : J.context settings schema given = .ok c) :
    At schema given ([], schema) c := by
  unfold Judge.context at h
  simp only at h
  split at h
  · cases h
    exact ⟨rfl, rfl, fun _ => rfl⟩
  · cases h

/-- The next identifier leads to the resource that declares it. -/
theorem At.document? {document s : Value} {given : Documents}
    {e : List String × Value} {outer : List String} {id : String}
    (haddressed : Addressed document) (hsteady : Steady document)
    (he : e ∈ inner document) (heq : e.1 = outer ++ [id])
    {c : DocumentContext J} (h : At document given (outer, s) c) :
    ∃ d, c.document? id = some d ∧ At document given e d := by
  obtain ⟨u, hu⟩ := Option.isSome_iff_exists.1
    (haddressed.joined e (List.mem_cons_of_mem _ he))
  have hjoin : c.base.bind (·.join? id) = some u := by
    rw [h.base, ← hu, heq]
    exact (addressFrom_append ..).symm
  have hname : Reference.absolute c.base id = Reference.normalize u.text := by
    rw [Reference.absolute, hjoin]
  have hfind : c.known.find? (Reference.normalize u.text) = some e.2 := by
    rw [h.known]
    exact find?_inner haddressed hsteady given he (by rw [nameOf, hu]; rfl)
  simp only [DocumentContext.document?, hname, hfind, Option.map_some]
  refine ⟨_, rfl, h.known, rfl, fun next => ?_⟩
  have hread : Url.parse? (Reference.normalize u.text) = _ :=
    haddressed.readBack e he u hu
  rw [hread, hu, Option.bind_some, Option.bind_some, Url.join?_fragment]

theorem reach_at {document : Value} {given : Documents}
    (haddressed : Addressed document) (hsteady : Steady document)
    {c : DocumentContext J} (h : At document given ([], document) c) :
    ∀ e ∈ resources document, ∃ d, c.reach e.1 = some d ∧
      At document given e d := by
  -- By the length of the scope: around a resource there is one with a shorter.
  suffices hlength : ∀ n, ∀ e ∈ resources document, e.1.length = n →
      ∃ d, c.reach e.1 = some d ∧ At document given e d from
    fun e he => hlength _ e he rfl
  intro n
  induction n with
  | zero =>
      intro e he hzero
      rcases List.mem_cons.1 he with rfl | he
      · exact ⟨c, rfl, h⟩
      · obtain ⟨outer, id, -, heq, -⟩ := resources_around he
        simp [heq] at hzero
  | succ n ih =>
      intro e he hsucc
      rcases List.mem_cons.1 he with rfl | he
      · cases hsucc
      · obtain ⟨outer, id, s, heq, -, hs⟩ := resources_around he
        rw [heq, List.length_append] at hsucc
        obtain ⟨d, hd, hat⟩ := ih _ hs (Nat.succ.inj hsucc)
        obtain ⟨d', hd', hat'⟩ := hat.document? haddressed hsteady he heq
        refine ⟨d', ?_, hat'⟩
        rw [heq, reach_append, hd]
        exact hd'

/-- Every resource of a compiled schema is found under the identifiers that the
resources around it and it itself declare. -/
theorem reach_resources {settings : Settings} {schema : Value}
    {given : Documents} {c : DocumentContext J}
    (h : J.context settings schema given = .ok c)
    (haddressed : Addressed schema) (hsteady : Steady schema) :
    List.Forall₂ (fun r e => r.scope = e.1 ∧
        (∀ id ∈ r.scope.getLast?, resourceId? e.2 = some id) ∧
        (c.reach r.scope).map DocumentContext.schema = some e.2)
      (collectReferences schema) (resources schema) := by
  have hscopes : List.Forall₂ (fun e r => e.1 = ResourceReferences.scope r)
      (resources schema) (collectReferences schema) := by
    have heq : List.Forall₂ Eq ((resources schema).map Prod.fst)
        ((collectReferences schema).map ResourceReferences.scope) := by
      rw [List.forall₂_eq_eq_eq, collectReferences_scopes]
    exact List.forall₂_map_right_iff.1 (List.forall₂_map_left_iff.1 heq)
  have hreach : ∀ e ∈ resources schema,
      (∀ id ∈ e.1.getLast?, resourceId? e.2 = some id) ∧
        (c.reach e.1).map DocumentContext.schema = some e.2 := by
    intro e he
    obtain ⟨d, hd, hat⟩ := reach_at haddressed hsteady (.of_context h) e he
    refine ⟨fun id hid => ?_, by rw [hd, Option.map_some, hat.schema]⟩
    rcases List.mem_cons.1 he with rfl | he
    · cases hid
    · obtain ⟨outer, last, -, heq, hlast, -⟩ := resources_around he
      rw [heq, List.getLast?_concat] at hid
      cases hid
      exact hlast
  exact (((List.forall₂_and_left _ _).2 ⟨hreach, hscopes⟩).imp
    fun e r ⟨hfound, hscope⟩ => ⟨hscope.symm, hscope ▸ hfound⟩).flip

/-- Resources under relative and absolute identifiers, one inside another. -/
def nested : Value :=
  .object [("$id", .string "root.json"), ("$defs", .object [
    ("x", .object [("$id", .string "d/x.json"),
      ("items", .object [("$id", .string "y.json"),
        ("$ref", .string "x.json")])]),
    ("z", .object [("$id", .string "urn:z"), ("not", .object [])])])]

theorem addressed_nested : Addressed nested :=
  ⟨by decide +kernel, by decide +kernel, by decide +kernel⟩

theorem reach_resources_nested :
    List.Forall₂ (fun r e => r.scope = e.1 ∧
        (∀ id ∈ r.scope.getLast?, resourceId? e.2 = some id) ∧
        ((Validator.lenientContext nested).reach r.scope).map
          DocumentContext.schema = some e.2)
      (collectReferences nested) (resources nested) :=
  reach_resources
    (show Validator.lenient.context (Settings.ofConfig .default) nested
      .empty = .ok (Validator.lenientContext nested) from rfl)
    addressed_nested (.of_tableBase? addressed_nested (by decide +kernel))

/-- A root in a directory, with a resource under a relative identifier. -/
def shelved : Value :=
  .object [("$id", .string "dir/root.json"), ("$defs", .object [
    ("x", .object [("$id", .string "x.json"),
      ("type", .string "integer")])])]

/-- The directory is joined twice, and the resource is not found. -/
theorem exists_unreachable :
    ¬ ∀ (J : Judge) (settings : Settings) (schema : Value) (given : Documents)
        (c : DocumentContext J), J.context settings schema given = .ok c →
      Addressed schema →
      ∀ r ∈ collectReferences schema, ∃ e ∈ resources schema, r.scope = e.1 ∧
        (c.reach r.scope).map DocumentContext.schema = some e.2 := by
  intro h
  obtain ⟨e, -, -, hreach⟩ := h Validator.lenient (Settings.ofConfig .default)
    shelved .empty (Validator.lenientContext shelved) rfl
    ⟨by decide +kernel, by decide +kernel, by decide +kernel⟩
    ⟨["x.json"], []⟩ (by decide +kernel)
  have hlost : (((Validator.lenientContext shelved).reach ["x.json"]).map
      DocumentContext.schema).isNone = true := by decide +kernel
  rw [hreach] at hlost
  cases hlost

end DocumentContext

end SchemaPipeline
