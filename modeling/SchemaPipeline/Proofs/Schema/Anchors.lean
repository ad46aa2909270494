import SchemaPipeline.Proofs.Registry.Coverage
import SchemaPipeline.Proofs.Schema.Positions

/-!
# Anchors and the resource of their document

An anchor is a name inside one resource, and a resource inside the document may
give the same name to a schema of its own. Where the name is looked up in a
document, the one that the document's own resource declares is meant.

The search does not know about resources. It takes the first declaration in
document order, wherever it stands, so it stays in the document's own resource
exactly if every declaration elsewhere comes after one there (`Guarded`).
-/

namespace SchemaPipeline

namespace Schema

/-- A fragment that is a name: not empty, and not a pointer. -/
def PlainName (fragment : String) : Prop :=
  fragment.isEmpty = false ∧ fragment.toList.head? ≠ some '/'

instance (fragment : String) : Decidable (PlainName fragment) :=
  inferInstanceAs (Decidable (_ ∧ _))

variable {name : String} {document : Value}

/-- Whether a name is declared at a position. -/
def Position.declares (name : String) (p : Position) : Bool :=
  hasAnchor name p.schema

/-- The position where a name is found. -/
def anchorPosition? (name : String) (document : Value) : Option Position :=
  (positions document).find? (Position.declares name)

/-- The positions where the document's own resource declares a name. -/
def ownAnchors (name : String) (document : Value) : List Position :=
  (positions document).filter fun p => p.Own ∧ p.declares name

/-- Every declaration of a name in another resource comes after one in the
document's own. -/
def Guarded (name : String) (document : Value) : Prop :=
  ∀ before p after, positions document = before ++ p :: after →
    p.declares name = true → ¬ p.Own →
    ∃ q ∈ before, q.Own ∧ q.declares name = true

theorem map_schema_anchorPosition? (name : String) (document : Value) :
    (anchorPosition? name document).map Position.schema =
      findAnchor name document := by
  rw [findAnchor, ← Value.schemas, ← map_schema_positions, List.find?_map]
  rfl

theorem mem_ownAnchors {p : Position} :
    p ∈ ownAnchors name document ↔
      p ∈ positions document ∧ p.Own ∧ p.declares name = true := by
  rw [ownAnchors, List.mem_filter, decide_eq_true_iff]

theorem own_of_guarded (h : Guarded name document) {p : Position}
    (hp : anchorPosition? name document = some p) : p.Own := by
  obtain ⟨hname, before, after, hsplit, hbefore⟩ :=
    List.find?_eq_some_iff_append.1 hp
  by_contra howned
  obtain ⟨q, hq, -, hqname⟩ := h before p after hsplit hname howned
  have hnot := hbefore q hq
  rw [hqname] at hnot
  cases hnot

theorem guarded_of_own
    (h : ∀ p, anchorPosition? name document = some p → p.Own) :
    Guarded name document := by
  intro before p after hsplit hname howned
  cases hfound : before.find? (Position.declares name) with
  | some q =>
      refine ⟨q, List.mem_of_find?_eq_some hfound, h q ?_,
        List.find?_some hfound⟩
      rw [anchorPosition?, hsplit, List.find?_append, hfound, Option.some_or]
  | none =>
      -- nothing earlier has the name, so the search comes to the declaration
      refine absurd (h p ?_) howned
      rw [anchorPosition?, hsplit, List.find?_append, hfound, Option.none_or,
        List.find?_cons_of_pos hname]

/-- A search that ends in the document's own resource finds the only declaration
there. -/
theorem anchorPosition?_of_own
    (h : ∀ p, anchorPosition? name document = some p → p.Own) {p : Position}
    (honly : ownAnchors name document = [p]) :
    anchorPosition? name document = some p := by
  have hp : p ∈ ownAnchors name document := honly ▸ List.mem_singleton_self p
  obtain ⟨hmem, -, hname⟩ := mem_ownAnchors.1 hp
  cases hfound : anchorPosition? name document with
  | none =>
      have hnot := List.find?_eq_none.1 hfound p hmem
      exact absurd hname hnot
  | some q =>
      have hq : q ∈ ownAnchors name document :=
        mem_ownAnchors.2 ⟨List.mem_of_find?_eq_some hfound, h q hfound,
          List.find?_some hfound⟩
      rw [honly] at hq
      rw [List.mem_singleton.1 hq]

end Schema

namespace DocumentContext

open Schema

variable {J : Judge}

theorem fragment?_plainName {fragment : String} (h : PlainName fragment)
    (c : DocumentContext J) :
    c.fragment? fragment =
      (anchorPosition? fragment c.schema).map Position.schema := by
  rw [map_schema_anchorPosition?, fragment?, if_neg h.2, if_neg]
  rw [h.1]
  exact Bool.false_ne_true

/-- A name is found inside the document's own resource, and at its only
declaration there, exactly if no declaration of another resource comes before
those of its own. -/
theorem anchor_inside_iff {fragment : String} (h : PlainName fragment)
    (c : DocumentContext J) :
    c.fragment? fragment =
        (anchorPosition? fragment c.schema).map Position.schema ∧
      (((∀ p, anchorPosition? fragment c.schema = some p → p.Own) ∧
          ∀ p, ownAnchors fragment c.schema = [p] →
            anchorPosition? fragment c.schema = some p ∧
              c.fragment? fragment = some p.schema) ↔
        Guarded fragment c.schema) := by
  refine ⟨fragment?_plainName h c, fun hinside => guarded_of_own hinside.1,
    fun hguarded => ?_⟩
  have hown : ∀ p, anchorPosition? fragment c.schema = some p → p.Own :=
    fun p hp => own_of_guarded hguarded hp
  refine ⟨hown, fun p honly => ?_⟩
  have hfound := anchorPosition?_of_own hown honly
  refine ⟨hfound, ?_⟩
  rw [fragment?_plainName h, hfound, Option.map_some]

/-- A document that declares a name before a resource inside it does. -/
def declaredBefore : Value :=
  .object [("$defs", .object [
    ("o", .object [("$anchor", .string "x"), ("type", .string "integer")]),
    ("r", .object [("$id", .string "r"), ("$defs", .object [
      ("n", .object [("$anchor", .string "x"), ("type", .string "string")])])])])]

theorem anchor_inside_declaredBefore :
    PlainName "x" ∧
      ((Validator.lenientContext declaredBefore).fragment? "x" =
          (anchorPosition? "x" declaredBefore).map Position.schema ∧
        (((∀ p, anchorPosition? "x" declaredBefore = some p → p.Own) ∧
            ∀ p, ownAnchors "x" declaredBefore = [p] →
              anchorPosition? "x" declaredBefore = some p ∧
                (Validator.lenientContext declaredBefore).fragment? "x" =
                  some p.schema) ↔
          Guarded "x" declaredBefore)) :=
  ⟨by decide +kernel, anchor_inside_iff (by decide +kernel)
    (Validator.lenientContext declaredBefore)⟩

/-- A document that declares a name after a resource inside it does. -/
def declaredAfter : Value :=
  .object [("$defs", .object [
    ("e", .object [("$id", .string "e"), ("$defs", .object [
      ("n", .object [("$anchor", .string "x"), ("type", .string "string")])])]),
    ("o", .object [("$anchor", .string "x"), ("type", .string "integer")])])]

/-- The name leads into the resource inside, past the only declaration of the
document's own. -/
theorem exists_anchor_outside :
    ¬ ∀ (J : Judge) (c : DocumentContext J) (fragment : String),
      PlainName fragment →
      (∀ p, anchorPosition? fragment c.schema = some p → p.Own) ∧
        ∀ p, ownAnchors fragment c.schema = [p] →
          c.fragment? fragment = some p.schema := by
  intro h
  obtain ⟨hown, -⟩ := h Validator.lenient
    (Validator.lenientContext declaredAfter) "x" (by decide +kernel)
  have hfound : ((anchorPosition? "x" declaredAfter).map
      fun p => decide p.Own) = some false := by decide +kernel
  obtain ⟨p, hp, hno⟩ := Option.map_eq_some_iff.1 hfound
  exact of_decide_eq_false hno (hown p hp)

end DocumentContext

end SchemaPipeline
