import SchemaPipeline.Proofs.Registry.Gains

/-!
# When a document is blamed

A document that is reported missing after it was fetched is blamed: fetching it
once more would not help. What a compilation remembers for this is not what was
fetched but what was asked for, and it asks for all documents of a report before
it fetches the first of them.

Between rounds the two are the same. `Phase.Tried` is the invariant: a document
that was asked for waits, or a request for it is under way, or its fetch has
returned a document, and at a call of the compiler nothing waits and nothing is
under way. Within one report they differ. A compiler that names a document twice
in a report has it blamed although nothing was fetched (`Course.tried_or_twice`).
The check of references names no document twice, and neither does a judge.
-/

namespace SchemaPipeline

namespace Registry

variable {σ κ : Type}

/-! ## Who is blamed -/

/-- The first document that was asked for before, or that stands in the report
for the second time. -/
theorem askFor_error {asked uris : List String} {e : CompileError}
    (h : askFor asked uris = .error e) :
    ∃ before uri after, uris = before ++ uri :: after ∧
      e = .unresolved uri twiceMessage ∧ (uri ∈ asked ∨ uri ∈ before) := by
  induction uris generalizing asked with
  | nil => cases h
  | cons uri rest ih =>
      rw [askFor] at h
      split at h
      · next hold =>
          cases h
          exact ⟨[], uri, rest, rfl, rfl, .inl (by simpa using hold)⟩
      · obtain ⟨before, blamed, after, rfl, he, hblamed⟩ := ih h
        refine ⟨uri :: before, blamed, after, rfl, he, ?_⟩
        rcases hblamed with hasked | hbefore
        · rcases List.mem_append.1 hasked with hold | hnew
          · exact .inl hold
          · exact .inr (List.mem_singleton.1 hnew ▸ List.mem_cons_self)
        · exact .inr (List.mem_cons_of_mem _ hbefore)

/-- A reference without a target has a message of its own. -/
theorem message_ne_twice (e : ReferenceError) : e.message ≠ twiceMessage := by
  intro h
  have hhead := congrArg (fun s => s.toList.head?) h
  cases e <;>
    · simp only [ReferenceError.message, twiceMessage, String.toList_append,
        List.append_assoc] at hhead
      cases hhead

section

variable [SchemaContext κ] {compiler : Compiler σ κ} {net : Network}
  {schema : Value}

theorem broken_message {base : Option Url} {context : κ}
    {reference reason : String}
    (h : referenceState base context reference = .broken reason) :
    ∃ e : ReferenceError, reason = e.message := by
  unfold referenceState at h
  split at h
  · cases h
  · dsimp only at h
    split at h
    · cases h
    · cases h
      exact ⟨_, rfl⟩
  · cases h
    exact ⟨_, rfl⟩

theorem broken_of_scan {xs : List (String × ReferenceState)}
    {missing : List String} {e : CompileError} (h : scan xs missing = .error e) :
    ∃ reference reason, e = .unresolved reference reason ∧
      (reference, .broken reason) ∈ xs := by
  induction xs generalizing missing with
  | nil => cases h
  | cons x rest ih =>
      obtain ⟨reference, state⟩ := x
      have hrest : ∀ missing, scan rest missing = .error e →
          ∃ name reason, e = .unresolved name reason ∧
            (name, .broken reason) ∈ (reference, state) :: rest := by
        intro missing h
        obtain ⟨name, reason, he, hmem⟩ := ih h
        exact ⟨name, reason, he, List.mem_cons_of_mem _ hmem⟩
      cases state with
      | resolved => exact hrest _ h
      | missing uri => exact hrest _ h
      | broken reason =>
          cases h
          exact ⟨reference, reason, rfl, List.mem_cons_self⟩

/-- The check of references blames no document for having been fetched. -/
theorem attempt_failed_ne {p p' : Progress σ} {e : CompileError}
    (h : attempt compiler schema p = (.failed e, p')) (uri : String) :
    e ≠ .unresolved uri twiceMessage := by
  rintro rfl
  simp only [attempt] at h
  split at h
  · cases h
  · cases h
  · next context _ =>
      split at h
      · next hcheck =>
          cases h
          rw [missingDocuments_eq] at hcheck
          obtain ⟨reference, reason, heq, hmem⟩ := broken_of_scan hcheck
          cases heq
          simp only [states, List.mem_flatMap, List.mem_map] at hmem
          obtain ⟨resource, -, name, -, hstate⟩ := hmem
          obtain ⟨e, he⟩ := broken_message (Prod.mk.inj hstate).2
          exact message_ne_twice e he.symm
      · cases h
      · cases h

/-- A report of the check of references names each document once. -/
theorem attempt_needs {p p' : Progress σ} {uris : List String}
    (h : attempt compiler schema p = (.needs uris, p')) :
    answer compiler schema p = .error (.missing uris) ∨ uris.Nodup := by
  unfold answer
  simp only [attempt] at h
  split at h
  · cases h
  · next hanswer =>
      cases h
      exact .inl hanswer
  · split at h
    · cases h
    · cases h
    · next hcheck =>
        cases h
        rw [missingDocuments_eq] at hcheck
        exact .inr (nodup_of_scan hcheck List.nodup_nil)

end

/-! ## What has been tried -/

/-- The fetch of a document was begun, and it has returned a document: at once
from the cache, or with the reply to its request. -/
inductive Event.Fetched (trace : List (Event κ)) (uri : String)
    (document : Value) : Prop where
  | cached (h : .begins uri (.hit document) ∈ trace)
  | served {before after : List (Event κ)} {r : Cache.Request}
      (htrace : trace = before ++ .begins uri (.request r) :: after)
      (h : .ends r (.ok document) ∈ after)

theorem Event.Fetched.mono {trace : List (Event κ)} {uri : String}
    {document : Value} (h : Event.Fetched trace uri document)
    (events : List (Event κ)) :
    Event.Fetched (trace ++ events) uri document := by
  cases h with
  | cached h => exact .cached (List.mem_append_left _ h)
  | served htrace h =>
      subst htrace
      exact .served (List.append_assoc _ _ _) (List.mem_append_left _ h)

theorem Event.Fetched.begun {trace : List (Event κ)} {uri : String}
    {document : Value} (h : Event.Fetched trace uri document) :
    uri ∈ Event.begun trace := by
  rw [Event.mem_begun]
  cases h with
  | cached h => exact ⟨_, h⟩
  | @served before after r htrace h =>
      subst htrace
      exact ⟨.request r, List.mem_append_right _ List.mem_cons_self⟩

/-- A document that was asked for waits, or a request for it is under way, or
its fetch has returned a document. There is nothing to say when the compilation
has ended. -/
def Phase.Tried (trace : List (Event κ)) (uri : String) : Phase σ κ → Prop
  | .ended _ _ => True
  | .calling _ => ∃ document, Event.Fetched trace uri document
  | .fetching waiting flying _ =>
    uri ∈ waiting ∨
      (∃ before r after, trace = before ++ .begins uri (.request r) :: after ∧
        r ∈ flying) ∨
      ∃ document, Event.Fetched trace uri document

section

variable [SchemaContext κ] {compiler : Compiler σ κ} {net : Network}
  {schema : Value} {s t : Phase σ κ} {trace events : List (Event κ)}

theorem Step.tried (h : Step compiler net schema s events t)
    (hs : ∀ uri ∈ s.progress.asked, s.Tried trace uri) :
    ∀ uri ∈ t.progress.asked, t.Tried (trace ++ events) uri := by
  intro name hname
  cases h with
  | done | failed | twice | refused | broken => trivial
  | hand hattempt hask =>
      rw [Phase.progress, (askFor_ok hask).1,
        (attempt_progress hattempt).2.1] at hname
      rcases List.mem_append.1 hname with hold | hnew
      · obtain ⟨document, hfetched⟩ := hs name hold
        exact .inr (.inr ⟨document, hfetched.mono _⟩)
      · exact .inl hnew
  | @hit p before after flying uri document hstart =>
      rcases hs name hname with hwaits | ⟨front, r, back, rfl, hr⟩ |
        ⟨document, hfetched⟩
      · rcases List.mem_cons.1 (List.perm_middle.mem_iff.1 hwaits) with
          rfl | hwaits
        · exact .inr (.inr ⟨document, .cached (by simp)⟩)
        · exact .inl hwaits
      · exact .inr (.inl ⟨front, r, _, List.append_assoc _ _ _, hr⟩)
      · exact .inr (.inr ⟨document, hfetched.mono _⟩)
  | @request p before after flying uri r hstart =>
      rcases hs name hname with hwaits | ⟨front, q, back, rfl, hq⟩ |
        ⟨document, hfetched⟩
      · rcases List.mem_cons.1 (List.perm_middle.mem_iff.1 hwaits) with
          rfl | hwaits
        · exact .inr (.inl ⟨trace, r, [], rfl, by simp⟩)
        · exact .inl hwaits
      · exact .inr (.inl ⟨front, q, _, List.append_assoc _ _ _,
          List.mem_append_left _ hq⟩)
      · exact .inr (.inr ⟨document, hfetched.mono _⟩)
  | @reply p waiting before after r document cache hfinish =>
      rcases hs name hname with hwaits | ⟨front, q, back, rfl, hq⟩ |
        ⟨earlier, hfetched⟩
      · exact .inl hwaits
      · rcases List.mem_cons.1 (List.perm_middle.mem_iff.1 hq) with rfl | hq
        · exact .inr (.inr ⟨document, .served (List.append_assoc _ _ _)
            (List.mem_append_right _ List.mem_cons_self)⟩)
        · exact .inr (.inl ⟨front, q, _, List.append_assoc _ _ _, hq⟩)
      · exact .inr (.inr ⟨earlier, hfetched.mono _⟩)
  | again =>
      rcases hs name hname with hwaits | ⟨_, r, _, _, hr⟩ | hfetched
      · cases hwaits
      · cases hr
      · rwa [List.append_nil]

theorem tried_of_course {state : σ} {cache : Cache}
    (h : Course compiler net schema (.calling (Progress.start state cache))
      trace s) :
    ∀ uri ∈ s.progress.asked, s.Tried trace uri := by
  induction h with
  | nil => nofun
  | snoc _ hstep ih => exact hstep.tried ih

/-- A compilation that ends with this blame ends at a report. -/
theorem Course.of_blamed {p : Progress σ} {q : Progress σ} {uri : String}
    (h : Course compiler net schema (.calling p) trace
      (.ended (.error (.unresolved uri twiceMessage)) q)) :
    ∃ earlier r r' uris,
      trace = earlier ++ [.answers (answer compiler schema r), .reports uris] ∧
      Course compiler net schema (.calling p) earlier (.calling r) ∧
      attempt compiler schema r = (.needs uris, r') ∧
      askFor r.asked uris = .error (.unresolved uri twiceMessage) := by
  cases h with
  | snoc hcourse hstep =>
      cases hstep with
      | failed hattempt => exact absurd rfl (attempt_failed_ne hattempt uri)
      | twice hattempt hask =>
          rw [(attempt_progress hattempt).2.1] at hask
          exact ⟨_, _, _, _, rfl, hcourse, hattempt, hask⟩

/-- If the first report is refused, nothing comes after. -/
theorem Course.of_twice {p p' : Progress σ} {uris : List String}
    {e : CompileError} (hneeds : attempt compiler schema p = (.needs uris, p'))
    (hask : askFor p'.asked uris = .error e)
    (h : Course compiler net schema (.calling p) trace s) :
    trace = [] ∧ s = .calling p ∨
      trace = [.answers (answer compiler schema p), .reports uris] ∧
        s = .ended (.error e) p' := by
  induction h with
  | nil => exact .inl ⟨rfl, rfl⟩
  | snoc _ hstep ih =>
      rcases ih with ⟨rfl, rfl⟩ | ⟨-, rfl⟩
      · refine .inr ?_
        cases hstep with
        | done hattempt | failed hattempt => cases hneeds.symm.trans hattempt
        | twice hattempt hask' =>
            cases hneeds.symm.trans hattempt
            cases hask.symm.trans hask'
            exact ⟨rfl, rfl⟩
        | hand hattempt hask' =>
            cases hneeds.symm.trans hattempt
            cases hask.symm.trans hask'
      · cases hstep

/-! ## The blame -/

/-- What is blamed was tried before the last round, or it is named twice in the
report of the compiler that ends it. -/
theorem Course.tried_or_twice {state : σ} {cache : Cache} {q : Progress σ}
    {uri : String}
    (h : Course compiler net schema (.calling (Progress.start state cache)) trace
      (.ended (.error (.unresolved uri twiceMessage)) q)) :
    ∃ earlier p uris,
      trace = earlier ++ [.answers (answer compiler schema p), .reports uris] ∧
      Course compiler net schema (.calling (Progress.start state cache))
        earlier (.calling p) ∧
      uri ∈ uris ∧
      ((∃ document, Event.Fetched earlier uri document) ∨
        (uri ∉ Event.begun earlier ∧ 2 ≤ uris.count uri ∧
          answer compiler schema p = .error (.missing uris))) := by
  obtain ⟨earlier, p, p', uris, htrace, hcourse, hneeds, hask⟩ := h.of_blamed
  obtain ⟨before, blamed, after, rfl, heq, hblamed⟩ := askFor_error hask
  cases heq
  refine ⟨earlier, p, _, htrace, hcourse,
    List.mem_append_right _ List.mem_cons_self, ?_⟩
  by_cases hasked : uri ∈ p.asked
  · exact .inl (tried_of_course hcourse uri hasked)
  · have hrepeated : 2 ≤ (before ++ uri :: after).count uri :=
      two_le_count (hblamed.resolve_left hasked)
    refine .inr ⟨fun hbegun => hasked ?_, hrepeated, ?_⟩
    · exact (orderly_of_course hcourse).handed uri
        (List.mem_append_left _ hbegun)
    · refine (attempt_needs hneeds).resolve_right fun hnodup => ?_
      have := List.nodup_iff_count_le_one.1 hnodup uri
      omega

/-- In whatever order fetches begin and end: a document that is blamed for being
missing after it was fetched has been fetched in an earlier round, and the fetch
returned a document; or no fetch of it was begun at all, and the compiler has
named it twice in the report that ends the compilation. -/
theorem blamed_cases (compiler : Compiler σ κ) (net : Network) (schema : Value)
    (state : σ) (cache : Cache) :
    (∀ arrival : List Cache.Request → List Cache.Request,
      (∀ requests, (arrival requests).Perm requests) → ∀ calls,
        ∃ trace, Course compiler net schema
          (.calling (Progress.start state cache)) trace
          (.after (compileWithin compiler net arrival schema calls
            (Progress.start state cache)))) ∧
    ∀ trace q uri, Course compiler net schema
        (.calling (Progress.start state cache)) trace
        (.ended (.error (.unresolved uri twiceMessage)) q) →
      ∃ earlier p uris,
        trace =
          earlier ++ [.answers (answer compiler schema p), .reports uris] ∧
        Course compiler net schema (.calling (Progress.start state cache))
          earlier (.calling p) ∧
        uri ∈ uris ∧
        ((∃ document, Event.Fetched earlier uri document) ∨
          (uri ∉ Event.begun earlier ∧ 2 ≤ uris.count uri ∧
            answer compiler schema p = .error (.missing uris))) := by
  exact ⟨fun arrival harrival calls =>
    course_of_compileWithin harrival calls _, fun _ _ _ h => h.tried_or_twice⟩

end

/-! ## Two scripts -/

/-- A script of one entry gives it at every call. -/
theorem answering_missing (uris : List String) (schema : Value)
    (documents : Documents) (state : Scripted.State) :
    ((answering [.missing uris]).compile schema documents state).1 =
      .error (.missing uris) := by
  simp only [answering, Scripted.compiler, Scripted.Script.round]
  cases hcall : [Scripted.Round.missing uris][state.calls]? with
  | none => rfl
  | some round =>
      cases List.mem_singleton.1 (List.mem_of_getElem? hcall)
      rfl

/-- A cached document that is reported missing again and again is blamed after
the first round, in which it was fetched. -/
theorem blamed_cases_stubborn :
    ∃ trace q, Course (answering [.missing ["foo:a"]]) Network.unreachable .null
        (.calling (Progress.start .start (Cache.put .empty "foo:a" .null))) trace
        (.ended (.error (.unresolved "foo:a" twiceMessage)) q) ∧
      ∃ document, Event.Fetched trace "foo:a" document := by
  obtain ⟨hfollows, hblames⟩ :=
    blamed_cases (answering [.missing ["foo:a"]]) Network.unreachable .null
      .start (Cache.put .empty "foo:a" .null)
  obtain ⟨trace, hcourse⟩ := hfollows id (fun _ => .refl _) 2
  refine ⟨trace, _, hcourse, ?_⟩
  obtain ⟨earlier, p, uris, rfl, -, -, hcases⟩ := hblames _ _ _ hcourse
  rcases hcases with ⟨document, hfetched⟩ | ⟨-, hrepeated, hanswer⟩
  · exact ⟨document, hfetched.mono _⟩
  · cases (answering_missing _ _ _ _).symm.trans hanswer
    exact absurd hrepeated (by decide)

/-- A document that is named twice in the first report is blamed at once. It is
cached, so its fetch would have returned it, but no fetch is ever begun. -/
theorem exists_untried :
    (Cache.fetch Network.unreachable (Cache.put .empty "foo:a" .null)
        "foo:a").1 = .ok .null ∧
    (compileWithin (answering [.missing ["foo:a", "foo:a"], .ready])
        Network.unreachable id .null 2
        (Progress.start .start (Cache.put .empty "foo:a" .null))).1 =
      some (.error (.unresolved "foo:a" twiceMessage)) ∧
    ∀ trace s, Course (answering [.missing ["foo:a", "foo:a"], .ready])
        Network.unreachable .null
        (.calling (Progress.start .start (Cache.put .empty "foo:a" .null)))
        trace s →
      ∀ document, ¬ Event.Fetched trace "foo:a" document := by
  refine ⟨rfl, rfl, fun trace s h document hfetched => ?_⟩
  have hbegun := hfetched.begun
  rcases Course.of_twice rfl rfl h with ⟨rfl, -⟩ | ⟨rfl, -⟩
  · cases hbegun
  · cases hbegun

end Registry

end SchemaPipeline
