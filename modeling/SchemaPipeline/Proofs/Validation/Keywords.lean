import SchemaPipeline.Proofs.Validation.Quiet
import SchemaPipeline.Validation.Plan

/-!
# Reading keywords asks for no document

A keyword is read by returning, refusing and going on, and it hands the schemas
inside to a function that is given. Where that function asks for no document,
neither does the keyword; so by induction on how deep schemas lie in each other
no plan asks for one while it is made.
-/

namespace SchemaPipeline

variable {α β : Type}

/-- A reading that asks for no document. -/
structure Reading.Quiet (m : Reading α) : Prop where
  run : ∀ seen, SchemaPipeline.Quiet (m.run seen)

namespace Reading.Quiet

theorem pure (a : α) : Reading.Quiet (Pure.pure a) :=
  ⟨fun _ => .ok _⟩

theorem refuse (fault : Fault) (v : Value) :
    Reading.Quiet (α := α) (throw (.malformed fault v)) :=
  ⟨fun _ => .error rfl⟩

theorem bind {m : Reading α} {f : α → Reading β} (hm : m.Quiet)
    (hf : ∀ a, (f a).Quiet) : (m >>= f).Quiet :=
  ⟨fun seen => .bind (hm.run seen) fun r => (hf r.1).run r.2⟩

theorem lift {x : Except SchemaError α} (h : SchemaPipeline.Quiet x) :
    Reading.Quiet (liftM x : Reading α) :=
  ⟨fun _ => .bind h fun _ => .ok _⟩

theorem mapM {f : α → Reading β} (h : ∀ x, (f x).Quiet) (xs : List α) :
    (xs.mapM f).Quiet := by
  induction xs with
  | nil => exact pure []
  | cons x rest ih =>
      rw [List.mapM_cons]
      exact bind (h x) fun y => bind ih fun ys => pure _

theorem optionMapM {f : α → Reading β} (h : ∀ x, (f x).Quiet) (x : Option α) :
    (x.mapM f).Quiet := by
  cases x with
  | none => exact pure none
  | some a => exact bind (h a) fun b => pure _

theorem filterMapM {f : α → Reading (Option β)} (h : ∀ x, (f x).Quiet)
    (xs : List α) : (xs.filterMapM f).Quiet := by
  induction xs with
  | nil => exact pure []
  | cons x rest ih =>
      rw [List.filterMapM_cons]
      refine bind (h x) fun y => ?_
      cases y with
      | none => exact ih
      | some b => exact bind ih fun ys => pure _

end Reading.Quiet

namespace Keyword

/-! ## Values -/

theorem readText_quiet (v : Value) : Reading.Quiet (readText v) := by
  cases v with
  | string s => exact .pure s
  | _ => exact .refuse ..

theorem readList_quiet (v : Value) : Reading.Quiet (readList v) := by
  cases v with
  | array xs => exact .pure xs
  | _ => exact .refuse ..

theorem readMembers_quiet (v : Value) : Reading.Quiet (readMembers v) := by
  cases v with
  | object ms => exact .pure ms
  | _ => exact .refuse ..

theorem readNumber_quiet (v : Value) : Reading.Quiet (readNumber v) := by
  cases v with
  | number n => exact .pure n
  | _ => exact .refuse ..

theorem readNames_quiet (v : Value) : Reading.Quiet (readNames v) :=
  .bind (readList_quiet v) fun _ => .mapM readText_quiet _

theorem readCount_quiet (d : Draft) (v : Value) : Reading.Quiet (readCount d v) := by
  unfold readCount
  split
  · split
    · split
      · exact .pure _
      · exact .refuse ..
    · exact .refuse ..
    · split
      · exact .pure _
      · exact .refuse ..
    · exact .refuse ..
  · exact .refuse ..

theorem readQuantity_quiet (v : Value) : Reading.Quiet (readQuantity v) := by
  unfold readQuantity
  split
  · split
    · exact .pure _
    · exact .refuse ..
  · split
    · exact .pure _
    · exact .refuse ..
  · exact .refuse ..

theorem readTypeName_quiet (v : Value) : Reading.Quiet (readTypeName v) := by
  refine .bind (readText_quiet v) fun s => ?_
  split
  · exact .pure _
  · exact .refuse ..

theorem readTypes_quiet (v : Value) : Reading.Quiet (readTypes v) := by
  unfold readTypes
  split
  · split
    · exact .pure _
    · exact .refuse ..
  · split
    · exact .pure _
    · exact .refuse ..
  · exact .refuse ..
  · exact .mapM readTypeName_quiet _
  · exact .refuse ..

theorem readPattern_quiet (text : String) (fault : Value) :
    Reading.Quiet (readPattern text fault) := by
  unfold readPattern
  split
  · exact .pure _
  · exact .refuse ..

/-! ## Keywords without schemas -/

section Plain

variable {σ : Type}

theorem readNumeric_quiet (limit : Limit) (v : Value) :
    Reading.Quiet (readNumeric (σ := σ) limit v) :=
  .bind (readNumber_quiet v) fun _ => .pure _

theorem readExtent_quiet (d : Draft) (what : Extent) (bound : Bound)
    (v : Value) : Reading.Quiet (readExtent (σ := σ) d what bound v) :=
  .bind (readCount_quiet d v) fun _ => .pure _

theorem readFormat_quiet (terms : Terms) (d : Draft) (v : Value) :
    Reading.Quiet (readFormat (σ := σ) terms d v) := by
  unfold readFormat
  split
  · exact .pure _
  · refine .bind (readText_quiet v) fun name => ?_
    split
    · exact .pure _
    · exact .pure _

theorem readRequiredNames_quiet (v : Value) :
    Reading.Quiet (readRequiredNames (σ := σ) v) := by
  refine .bind (readList_quiet v) fun xs => ?_
  split
  · exact .bind (readNames_quiet v) fun _ => .pure _
  · exact .refuse ..

theorem readDependencies_quiet {read : Value → Reading (Dependency σ)}
    (hread : ∀ v, (read v).Quiet) (v : Value) :
    Reading.Quiet (readDependencies read v) :=
  .bind (readMembers_quiet v) fun _ =>
    .bind (.mapM (fun (_, w) => .bind (hread w) fun _ => .pure _) _) fun _ =>
      .pure _

end Plain

/-! ## Keywords with schemas -/

section Schemas

variable {σ : Type}

/-- What is read for `additionalProperties` beside patterns that were read
already. -/
def readBeside (plan : Value → Reading σ) (parent : Members) (v : Value) (patterned : List (Patterned σ)) :
    Reading (Option (Rule σ)) := do
  match v, neighbour parent "properties", neighbour parent "patternProperties" with
  | .bool true, _, _ => pure none
  | .bool false, none, none => pure (some .noProperties)
  | _, properties, _ => do
    let named ←
      match properties with
      | none => pure []
      | some (.object ps) => readNamed plan ps
      | some _ => throw (.malformed .unknownType v)
    let others ←
      match v with
      | .bool false => pure .forbidden
      | schema => do pure (.under (← plan schema))
    pure (some (.allProperties named patterned others))

variable {plan : Value → Reading σ} (hplan : ∀ v, (plan v).Quiet)

include hplan

theorem readNamed_quiet (ms : Members) : Reading.Quiet (readNamed plan ms) :=
  .mapM (fun (_, schema) => .bind (hplan schema) fun _ => .pure _) ms

theorem readPatterned_quiet (ms : Members) : Reading.Quiet (readPatterned plan ms) :=
  .mapM (fun (_, schema) => .bind (readPattern_quiet ..) fun _ =>
    .bind (hplan schema) fun _ => .pure _) ms

theorem readSchemas_quiet (v : Value) : Reading.Quiet (readSchemas plan v) :=
  .bind (readList_quiet v) fun _ => .mapM hplan _

theorem readIdle_quiet (v : Value) : Reading.Quiet (readIdle plan v) :=
  .bind (hplan v) fun _ => .pure _

theorem readBeside_quiet (parent : Members) (v : Value)
    (patterned : List (Patterned σ)) :
    Reading.Quiet (readBeside plan parent v patterned) := by
  unfold readBeside
  split
  · exact .pure _
  · exact .pure _
  · split
    · split
      · exact .bind (.pure _) fun _ => .bind (.pure _) fun _ => .pure _
      · exact .bind (readNamed_quiet hplan _) fun _ =>
          .bind (.pure _) fun _ => .pure _
      · exact .bind (.refuse ..) fun _ => .bind (.pure _) fun _ => .pure _
    · have hothers : ∀ (w : Value) (k : Remainder σ → Reading (Option (Rule σ))),
          (∀ others, (k others).Quiet) → Reading.Quiet (do
            let schema ← plan w
            let others ← Pure.pure (.under schema)
            k others) :=
        fun w k hk => .bind (hplan w) fun _ => .bind (.pure _) hk
      split
      · exact .bind (.pure _) fun _ => hothers _ _ fun _ => .pure _
      · exact .bind (readNamed_quiet hplan _) fun _ => hothers _ _ fun _ => .pure _
      · exact .bind (.refuse ..) fun _ => hothers _ _ fun _ => .pure _

theorem readAdditional_quiet (parent : Members) (v : Value) :
    Reading.Quiet (readAdditional plan parent v) := by
  have hbeside := readBeside_quiet hplan parent v
  unfold readBeside at hbeside
  unfold readAdditional
  cases hp : neighbour parent "patternProperties" with
  | none =>
      rw [hp] at hbeside
      exact hbeside []
  | some w =>
      rw [hp] at hbeside
      cases w with
      | object ps => exact .bind (readPatterned_quiet hplan ps) hbeside
      | _ => exact .bind (.refuse ..) hbeside

theorem readItems_quiet (parent : Members) (v : Value) :
    Reading.Quiet (readItems plan parent v) := by
  unfold readItems
  split
  · exact .bind (.mapM hplan _) fun _ => .pure _
  · exact .bind (hplan _) fun _ => .pure _
  · exact .bind (hplan _) fun _ => .pure _
  · exact .pure _

theorem readAdditionalItems_quiet (parent : Members) (v : Value) :
    Reading.Quiet (readAdditionalItems plan parent v) := by
  unfold readAdditionalItems
  split
  · exact .pure _
  · exact .bind (hplan _) fun _ => .pure _
  · exact .pure _
  · exact .pure _
  · exact .pure _
  · exact .pure _
  · exact .pure _
  · exact .refuse ..

theorem readContains_quiet (d : Draft) (parent : Members) (v : Value) :
    Reading.Quiet (readContains plan d parent v) := by
  unfold readContains
  split
  · exact .bind (.optionMapM readQuantity_quiet _) fun _ =>
      .bind (.optionMapM readQuantity_quiet _) fun _ =>
        .bind (hplan v) fun _ => .pure _
  · exact .bind (hplan v) fun _ => .pure _

theorem readSchemaFor_quiet (v : Value) : Reading.Quiet (readSchemaFor plan v) :=
  .bind (hplan v) fun _ => .pure _

theorem readDependency_quiet (v : Value) : Reading.Quiet (readDependency plan v) := by
  unfold readDependency
  split
  · exact .bind (readNames_quiet _) fun _ => .pure _
  · exact readSchemaFor_quiet hplan v

theorem readConditional_quiet (parent : Members) (v : Value) :
    Reading.Quiet (readConditional plan parent v) := by
  unfold readConditional
  split
  · exact .pure _
  · exact .bind (hplan v) fun _ => .bind (.optionMapM hplan _) fun _ =>
      .bind (.optionMapM hplan _) fun _ => .pure _

theorem readPropertyNames_quiet (v : Value) :
    Reading.Quiet (readPropertyNames plan v) := by
  unfold readPropertyNames
  split
  · exact .bind (hplan _) fun _ => .pure _
  · exact .pure _
  · exact .pure _

/-- Where the schemas inside ask for no document, no keyword does. -/
theorem read_quiet (terms : Terms) (d : Draft) (parent : Members)
    (keyword : String) (v : Value) :
    Reading.Quiet (read terms d plan parent keyword v) := by
  have hschemas : Reading.Quiet (readSchemas plan v) := readSchemas_quiet hplan v
  unfold read
  split
  · exact readAdditionalItems_quiet hplan parent v
  · exact readAdditional_quiet hplan parent v
  · exact .bind hschemas fun _ => .pure _
  · exact .bind hschemas fun _ => .pure _
  · exact .pure _
  · exact readContains_quiet hplan d parent v
  · exact readDependencies_quiet (readDependency_quiet hplan) v
  · exact readDependencies_quiet readRequiredNames_quiet v
  · exact readDependencies_quiet (readSchemaFor_quiet hplan) v
  · exact .bind (readList_quiet v) fun _ => .pure _
  · exact readNumeric_quiet .lessThan v
  · exact readNumeric_quiet .moreThan v
  · exact readFormat_quiet terms d v
  · exact readConditional_quiet hplan parent v
  · exact readItems_quiet hplan parent v
  · exact readNumeric_quiet _ v
  · exact readNumeric_quiet _ v
  · exact readExtent_quiet d _ _ v
  · exact readExtent_quiet d _ _ v
  · exact readExtent_quiet d _ _ v
  · exact readExtent_quiet d _ _ v
  · exact readExtent_quiet d _ _ v
  · exact readExtent_quiet d _ _ v
  · exact .bind (readNumber_quiet v) fun _ => .pure _
  · exact .bind (hplan v) fun _ => .pure _
  · exact .bind hschemas fun _ => .pure _
  · exact .bind (readText_quiet v) fun _ =>
      .bind (readPattern_quiet ..) fun _ => .pure _
  · split
    · exact .pure _
    · exact .bind (readMembers_quiet v) fun _ =>
        .bind (readPatterned_quiet hplan _) fun _ => .pure _
  · exact .bind hschemas fun _ => .pure _
  · split
    · exact .pure _
    · exact .bind (readMembers_quiet v) fun _ =>
        .bind (readNamed_quiet hplan _) fun _ => .pure _
  · exact readPropertyNames_quiet hplan v
  · exact .bind (readNames_quiet v) fun _ => .pure _
  · exact .bind (readTypes_quiet v) fun _ => .pure _
  · exact readIdle_quiet hplan v
  · exact readIdle_quiet hplan v
  · exact .pure _
  · exact .pure _

end Schemas

end Keyword

/-! ## Plans -/

namespace Plan

theorem again_quiet (make : Site → Reading Plan) (s : Scope)
    (keyword reference : String) (target : Site) :
    (again make s keyword reference target).Quiet := by
  refine .bind (.lift (Scope.revisit_quiet ..)) fun site => ?_
  split
  · exact .pure _
  · exact .pure _

theorem follow_quiet {make : Site → Reading Plan}
    (hmake : ∀ site, (make site).Quiet) (l : Library) (s : Scope)
    (keyword reference : String) :
    (follow l make s keyword reference).Quiet := by
  unfold follow
  split
  · exact .bind (.lift (Scope.lookupRecursive_quiet ..)) fun _ =>
      again_quiet ..
  · refine .bind (.lift (Uri.refer_quiet ..)) fun uri =>
      .bind ⟨fun _ => .ok _⟩ fun seen => ?_
    split
    · exact .bind (.lift (Scope.lookup_quiet ..)) fun _ => again_quiet ..
    · exact .bind ⟨fun _ => .ok _⟩ fun _ =>
        .bind (.lift (Scope.lookup_quiet ..)) fun target =>
          .bind (hmake target) fun _ => .pure _

theorem compile_quiet (l : Library) (terms : Terms) (fuel : Nat)
    (site : Site) : (compile l terms fuel site).Quiet := by
  induction fuel generalizing site with
  | zero => exact .pure _
  | succ fuel ih =>
      obtain ⟨schema, s⟩ := site
      cases schema with
      | bool b => cases b <;> exact .pure _
      | object ms =>
          refine .bind (.filterMapM (fun (keyword, v) => ?_) _) fun _ => .pure _
          have hinner : ∀ schema, Reading.Quiet (do
              compile l terms fuel (← s.site schema)) :=
            fun schema => .bind (.lift (Scope.site_quiet ..)) ih
          dsimp only
          split
          · exact .pure _
          · split
            · exact .bind (Keyword.readText_quiet v) fun reference =>
                .bind (follow_quiet ih l s keyword reference) fun _ => .pure _
            · exact Keyword.read_quiet hinner terms s.draft ms keyword v
      | _ => exact ⟨fun _ => .error rfl⟩

theorem ofSite_quiet (l : Library) (terms : Terms) (limit : Nat)
    (site : Site) :
    SchemaPipeline.Quiet ((compile l terms limit site).run' []) :=
  .map Prod.fst ((compile_quiet l terms limit site).run [])

end Plan

end SchemaPipeline
