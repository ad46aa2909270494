import SchemaPipeline.Proofs.Engine.Retrieval
import SchemaPipeline.Proofs.Registry.Rounds
import SchemaPipeline.Proofs.Registry.Safety
import SchemaPipeline.Proofs.Registry.Transparency

/-!
# What a round gains

A judge reports documents that are not in its table, and the table has all that
is cached. So a round of fetching meets the report: if nothing failed, all of it
is cached, and none of it was before (`rounds_gain`).

The invariant is `Phase.Has`: a document that was asked for under a normal name
waits, or a request for it is under way, or it is cached. At a call of the
compiler nothing waits and nothing is under way, so it is cached. The names have
to be normal because the cache looks a name up under its normal form, and the
judge looks it up as it is.
-/

namespace SchemaPipeline

/-! ## Caches -/

theorem Documents.contains_insert {d : Documents} {name other : String}
    (document : Value) : (d.insert name document).contains other = true ↔
      name = other ∨ d.contains other = true := by
  unfold contains
  by_cases h : name = other
  · subst h
    rw [find?_insert_self]
    exact iff_of_true rfl (.inl rfl)
  · rw [find?_insert_of_ne d document h]
    exact (or_iff_right h).symm

theorem Documents.contains_eq_false {d : Documents} {name : String}
    (h : name ∉ d.names) : d.contains name = false := by
  refine Bool.eq_false_iff.2 fun hcontains => ?_
  obtain ⟨v, hv⟩ := Option.isSome_iff_exists.1 hcontains
  exact h (List.mem_map_of_mem (f := Prod.fst) (Members.mem_of_find? hv))

namespace Cache

/-- A normal name is found where it is. -/
theorem contains_of_hit {c : Cache} {name : String} {document : Value}
    (hnormal : Reference.Normal name) (h : c.start name = .hit document) :
    c.contains name = true := by
  simp only [start, get?] at h
  split at h
  · next found hfound =>
      rw [hnormal, hnormal] at hfound
      exact Option.isSome_iff_exists.2 ⟨found, hfound⟩
  · split at h
    · cases h
    · split at h <;> cases h

theorem finish_ok {c c' : Cache} {r : Request} {reply : Reply}
    {document : Value} (h : c.finish r reply = (.ok document, c')) :
    c' = Documents.insert c r.name document := by
  rcases finish_cases c r reply with ⟨_, -, hfinish⟩ | ⟨e, hfinish⟩
  · cases hfinish.symm.trans h
    rfl
  · cases hfinish.symm.trans h

theorem finish_error {c c' : Cache} {r : Request} {reply : Reply}
    {e : FetchError} (h : c.finish r reply = (.error e, c')) : c' = c := by
  rcases finish_cases c r reply with ⟨_, -, hfinish⟩ | ⟨e, hfinish⟩
  · cases hfinish.symm.trans h
  · cases hfinish.symm.trans h
    rfl

end Cache

namespace Registry

variable {σ κ : Type}

/-! ## What the compiler reports -/

/-- The documents that the compiler itself has reported missing. -/
def Event.missed : List (Event κ) → List String
  | [] => []
  | .answers (.error (.missing uris)) :: rest => uris ++ missed rest
  | _ :: rest => missed rest

theorem Event.missed_append (trace events : List (Event κ)) :
    missed (trace ++ events) = missed trace ++ missed events := by
  induction trace with
  | nil => rfl
  | cons e rest ih =>
      cases e with
      | answers a =>
          cases a with
          | ok context => exact ih
          | error e =>
              cases e with
              | invalid reason => exact ih
              | missing uris =>
                  exact (congrArg (uris ++ ·) ih).trans
                    (List.append_assoc ..).symm
      | _ => exact ih

section

variable [SchemaContext κ] {compiler : Compiler σ κ} {net : Network}
  {schema : Value} {p : Progress σ} {uris : List String}

theorem attempt_of_missing
    (h : answer compiler schema p = .error (.missing uris)) :
    ∃ p', attempt compiler schema p = (.needs uris, p') := by
  unfold answer at h
  simp only [attempt, h]
  exact ⟨_, rfl⟩

/-- What the compiler reports is what is asked for next. -/
theorem missed_answer {p' : Progress σ}
    (h : attempt compiler schema p = (.needs uris, p')) :
    Event.missed [.answers (answer compiler schema p), .reports uris] ⊆ uris := by
  cases hanswer : answer compiler schema p with
  | ok context => exact List.nil_subset _
  | error e =>
      cases e with
      | invalid reason => exact List.nil_subset _
      | missing names =>
          obtain ⟨_, hneeds⟩ := attempt_of_missing hanswer
          cases h.symm.trans hneeds
          exact fun name hname => (List.mem_append.1 hname).resolve_right nofun

/-! ## What becomes of what is asked for -/

/-- A document waits, or a request for it is under way, or it is cached. There is
nothing to say when the compilation has ended. -/
def Phase.Has : Phase σ κ → String → Prop
  | .calling p, name => p.cache.contains name = true
  | .fetching waiting flying p, name =>
    name ∈ waiting ∨ (∃ r ∈ flying, r.name = name) ∨
      p.cache.contains name = true
  | .ended _ _, _ => True

variable {s t : Phase σ κ} {trace events : List (Event κ)}

/-- No step loses a document that was asked for. -/
theorem Step.has (h : Step compiler net schema s events t)
    (hs : ∀ name ∈ s.progress.asked, Reference.Normal name → s.Has name) :
    ∀ name ∈ t.progress.asked, Reference.Normal name → t.Has name := by
  intro name hname hnormal
  cases h with
  | done | failed | twice | refused | broken => trivial
  | hand hattempt hask =>
      obtain ⟨hcache, hasked, -⟩ := attempt_progress hattempt
      rw [Phase.progress, (askFor_ok hask).1, hasked] at hname
      rcases List.mem_append.1 hname with hold | hnew
      · refine .inr (.inr ?_)
        rw [hcache]
        exact hs name hold hnormal
      · exact .inl hnew
  | hit hstart =>
      rcases hs name hname hnormal with hwaits | hrest
      · rcases List.mem_cons.1 (List.perm_middle.mem_iff.1 hwaits) with
          rfl | hwaits
        · exact .inr (.inr (Cache.contains_of_hit hnormal hstart))
        · exact .inl hwaits
      · exact .inr hrest
  | request hstart =>
      rcases hs name hname hnormal with hwaits | ⟨r, hr, heq⟩ | hcached
      · rcases List.mem_cons.1 (List.perm_middle.mem_iff.1 hwaits) with
          rfl | hwaits
        · exact .inr (.inl ⟨_, List.mem_append_right _
            (List.mem_singleton_self _),
            (Cache.start_request hstart).2.1.trans hnormal⟩)
        · exact .inl hwaits
      · exact .inr (.inl ⟨r, List.mem_append_left _ hr, heq⟩)
      · exact .inr (.inr hcached)
  | reply hfinish =>
      cases Cache.finish_ok hfinish
      rcases hs name hname hnormal with hwaits | ⟨r, hr, heq⟩ | hcached
      · exact .inl hwaits
      · rcases List.mem_cons.1 (List.perm_middle.mem_iff.1 hr) with rfl | hr
        · exact .inr (.inr ((Documents.contains_insert _).2 (.inl heq)))
        · exact .inr (.inl ⟨r, hr, heq⟩)
      · exact .inr (.inr ((Documents.contains_insert _).2 (.inr hcached)))
  | again =>
      rcases hs name hname hnormal with hwaits | ⟨r, hr, -⟩ | hcached
      · cases hwaits
      · cases hr
      · exact hcached

theorem has_of_course {state : σ} {cache : Cache}
    (h : Course compiler net schema (.calling (Progress.start state cache))
      trace s) :
    ∀ name ∈ s.progress.asked, Reference.Normal name → s.Has name := by
  induction h with
  | nil => nofun
  | snoc _ hstep ih => exact hstep.has ih

/-- What is cached and what was asked for stays so. -/
theorem Step.grows (h : Step compiler net schema s events t) :
    (∀ name, s.progress.cache.contains name = true →
        t.progress.cache.contains name = true) ∧
      s.progress.asked ⊆ t.progress.asked := by
  cases h with
  | done hattempt | failed hattempt | twice hattempt _ =>
      obtain ⟨hcache, hasked, -⟩ := attempt_progress hattempt
      simp only [Phase.progress, hcache, hasked]
      exact ⟨fun _ => id, List.Subset.refl _⟩
  | hand hattempt hask =>
      obtain ⟨hcache, hasked, -⟩ := attempt_progress hattempt
      simp only [Phase.progress, hcache, (askFor_ok hask).1, hasked]
      exact ⟨fun _ => id, List.subset_append_left _ _⟩
  | hit | refused | request | again => exact ⟨fun _ => id, List.Subset.refl _⟩
  | reply hfinish =>
      cases Cache.finish_ok hfinish
      exact ⟨fun name hname => (Documents.contains_insert _).2 (.inr hname),
        List.Subset.refl _⟩
  | broken hfinish =>
      cases Cache.finish_error hfinish
      exact ⟨fun _ => id, List.Subset.refl _⟩

theorem Course.grows (h : Course compiler net schema s trace t) :
    (∀ name, s.progress.cache.contains name = true →
        t.progress.cache.contains name = true) ∧
      s.progress.asked ⊆ t.progress.asked := by
  induction h with
  | nil => exact ⟨fun _ => id, List.Subset.refl _⟩
  | snoc _ hstep ih =>
      exact ⟨fun name hname => hstep.grows.1 name (ih.1 name hname),
        List.Subset.trans ih.2 hstep.grows.2⟩

/-- As long as a compilation goes on, what the compiler has reported has been
asked for. -/
theorem missed_subset_asked (h : Course compiler net schema s trace t)
    (ht : ∀ outcome q, t ≠ .ended outcome q) :
    Event.missed trace ⊆ t.progress.asked := by
  induction h with
  | nil => exact List.nil_subset _
  | @snoc trace events t u hcourse hstep ih =>
      have hgoes : ∀ outcome q, t ≠ .ended outcome q := by
        rintro outcome q rfl
        cases hstep
      have hnew : Event.missed events ⊆ u.progress.asked := by
        cases hstep with
        | done | failed | twice | refused | broken => exact absurd rfl (ht _ _)
        | hand hattempt hask =>
            refine List.Subset.trans (missed_answer hattempt) ?_
            simp only [Phase.progress, (askFor_ok hask).1]
            exact List.subset_append_right _ _
        | hit | request | reply | again => exact List.nil_subset _
      rw [Event.missed_append]
      exact List.append_subset.2
        ⟨List.Subset.trans (ih hgoes) hstep.grows.2, hnew⟩

/-! ## A round -/

/-- A call of the compiler shows first. -/
theorem Course.first (h : Course compiler net schema (.calling p) trace s) :
    trace = [] ∧ s = .calling p ∨
      ∃ rest, trace = .answers (answer compiler schema p) :: rest := by
  induction h with
  | nil => exact .inl ⟨rfl, rfl⟩
  | snoc _ hstep ih =>
      rcases ih with ⟨rfl, rfl⟩ | ⟨rest, rfl⟩
      · cases hstep <;> exact .inr ⟨_, rfl⟩
      · exact .inr ⟨_, rfl⟩

theorem answer_eq {J : Judge} (p : Progress Settings) :
    answer J.compiler schema p = J.context p.state schema p.cache := rfl

/-- If a report is new, everything in it is asked for, and unless the compiler is
called again only a fetch can fail. -/
theorem Course.round {rest : List (Event κ)}
    (h : Course compiler net schema (.calling p) trace s)
    (htrace : trace = .answers (.error (.missing uris)) :: rest)
    (hnodup : uris.Nodup) (hnew : ∀ uri ∈ uris, uri ∉ p.asked) :
    uris ⊆ s.progress.asked ∧
      ((∀ a, .answers a ∉ rest) → ∀ outcome q, s = .ended outcome q →
        ∃ e, outcome = .error (.fetch e)) := by
  induction h generalizing rest with
  | nil => cases htrace
  | @snoc trace events t s hcourse hstep ih =>
      rcases hcourse.first with ⟨rfl, rfl⟩ | ⟨others, rfl⟩
      · have hanswer : answer compiler schema p = .error (.missing uris) := by
          cases hstep <;> exact Event.answers.inj (List.cons.inj htrace).1
        obtain ⟨p', hneeds⟩ := attempt_of_missing hanswer
        cases hstep with
        | done hattempt | failed hattempt => cases hneeds.symm.trans hattempt
        | twice hattempt hask =>
            cases hneeds.symm.trans hattempt
            rw [(attempt_progress hneeds).2.1, askFor_of_fresh hnodup hnew] at hask
            cases hask
        | hand hattempt hask =>
            cases hneeds.symm.trans hattempt
            rw [Phase.progress, (askFor_ok hask).1]
            exact ⟨List.subset_append_right _ _, nofun⟩
      · obtain ⟨hfirst, rfl⟩ := List.cons.inj htrace
        obtain ⟨hasked, -⟩ := ih (congrArg (· :: others) hfirst)
        refine ⟨List.Subset.trans hasked hstep.grows.2, ?_⟩
        rintro hquiet outcome q rfl
        cases hstep with
        | done | failed | twice =>
            exact absurd (List.mem_append_right _ List.mem_cons_self)
              (hquiet _)
        | refused | broken => exact ⟨_, rfl⟩

theorem error_of_fetchMissing {arrival : List Cache.Request → List Cache.Request}
    {asked : List String} {q : Progress σ} {error : CompileError}
    (hask : askFor p.asked uris = .ok asked)
    (h : fetchMissing net arrival uris p = (.error error, q)) :
    ∃ e, error = .fetch e := by
  simp only [fetchMissing, hask] at h
  split at h
  · cases h
  · cases h
    exact ⟨_, rfl⟩

/-- A round that is over has failed in a fetch, or the cache has gained all of
the documents. -/
def Phase.Gains (cache : Cache) (uris : List String) : Phase σ κ → Prop
  | .fetching _ _ _ => True
  | .ended outcome _ => ∃ e, outcome = .error (.fetch e)
  | .calling q =>
    (∀ name, cache.contains name = true → q.cache.contains name = true) ∧
      ∀ uri ∈ uris, cache.contains uri = false ∧ q.cache.contains uri = true

/-- A call of the compiler at which documents are reported under normal names,
each once, and none of them is cached. -/
structure Reporting (compiler : Compiler σ κ) (net : Network) (schema : Value)
    (before : List (Event κ)) (p : Progress σ) (uris : List String) : Prop where
  called : ∃ state cache, Course compiler net schema
    (.calling (Progress.start state cache)) before (.calling p)
  answer : answer compiler schema p = .error (.missing uris)
  nodup : uris.Nodup
  normal : ∀ uri ∈ uris, Reference.Normal uri
  absent : ∀ uri ∈ uris, p.cache.contains uri = false

namespace Reporting

variable {before : List (Event κ)}
  (h : Reporting compiler net schema before p uris)

include h

/-- What was asked for under a normal name is cached by now. -/
theorem not_asked : ∀ uri ∈ uris, uri ∉ p.asked := by
  intro uri huri hasked
  obtain ⟨_, _, hcourse⟩ := h.called
  have hhas : p.cache.contains uri = true :=
    has_of_course hcourse uri hasked (h.normal uri huri)
  rw [h.absent uri huri] at hhas
  cases hhas

theorem not_missed : ∀ uri ∈ uris, uri ∉ Event.missed before := by
  intro uri huri hmissed
  obtain ⟨_, _, hcourse⟩ := h.called
  have hsubset : Event.missed before ⊆ p.asked :=
    missed_subset_asked hcourse fun _ _ heq => by cases heq
  exact h.not_asked uri huri (hsubset hmissed)

theorem gains_of_calling {more : List (Event κ)} {q : Progress σ}
    (hround : Course compiler net schema (.calling p) more (.calling q))
    (hasked : uris ⊆ q.asked) :
    (Phase.calling q : Phase σ κ).Gains p.cache uris := by
  obtain ⟨_, _, hcourse⟩ := h.called
  refine ⟨hround.grows.1, fun uri huri => ⟨h.absent uri huri, ?_⟩⟩
  exact has_of_course (hcourse.trans hround) uri (hasked huri)
    (h.normal uri huri)

/-- In whatever order fetches begin and end. -/
theorem gains_of_course {rest : List (Event κ)}
    (hround : Course compiler net schema (.calling p)
      (.answers (.error (.missing uris)) :: rest) s)
    (hquiet : ∀ a, .answers a ∉ rest) : s.Gains p.cache uris := by
  obtain ⟨hasked, hends⟩ := hround.round rfl h.nodup h.not_asked
  cases s with
  | fetching waiting flying q => trivial
  | ended outcome q => exact hends hquiet outcome q rfl
  | calling q => exact h.gains_of_calling hround hasked

/-- If all fetches begin at once, in whatever order the replies come. -/
theorem gains_of_fetchMissing {arrival : List Cache.Request → List Cache.Request}
    (harrival : ∀ requests, (arrival requests).Perm requests) :
    ∃ p', attempt compiler schema p = (.needs uris, p') ∧
      (Phase.fetched (fetchMissing net arrival uris p') : Phase σ κ).Gains
        p.cache uris := by
  obtain ⟨p', hneeds⟩ := attempt_of_missing h.answer
  refine ⟨p', hneeds, ?_⟩
  have hask : askFor p'.asked uris = .ok (p'.asked ++ uris) := by
    refine askFor_of_fresh h.nodup fun uri huri => ?_
    rw [(attempt_progress hneeds).2.1]
    exact h.not_asked uri huri
  obtain ⟨trace, hround⟩ := course_of_fetchMissing net harrival hneeds
  cases hfetch : fetchMissing net arrival uris p' with
  | mk result q =>
      cases result with
      | error e =>
          obtain ⟨cause, rfl⟩ := error_of_fetchMissing hask hfetch
          exact ⟨cause, rfl⟩
      | ok u =>
          rw [hfetch] at hround
          refine h.gains_of_calling hround ?_
          rw [(askFor_ok (asked_of_fetchMissing hfetch)).1]
          exact List.subset_append_right _ _

end Reporting

end

/-- A judge reports documents that are neither at hand nor inside one that is,
each once. A round that goes on with a report fails in a fetch or brings all of
it, and what was reported before is not reported again. -/
theorem rounds_gain (schema : Value) :
    (∃ builds, Standard.judge = Judge.ofBuilds builds) ∧
    ∀ builds : Terms → Value → Build,
      (∀ settings given names,
        (Judge.ofBuilds builds).context settings schema given =
          .error (.missing names) →
        names ≠ [] ∧ names.Nodup ∧ ∀ name ∈ names,
          (∃ uri ∈ (builds settings.terms schema).asked
            ⟨Documents.known schema given, []⟩, name = Reference.normalize uri) ∧
          (Documents.own schema).find? name = none ∧ name ∉ given.names ∧
          ∀ e ∈ given.entries, name ∉ Documents.claims e) ∧
      ∀ net settings cache before p names,
        Course (Judge.ofBuilds builds).compiler net schema
          (.calling (Progress.start settings cache)) before (.calling p) →
        answer (Judge.ofBuilds builds).compiler schema p =
          .error (.missing names) →
        (∀ name ∈ names, Reference.Normal name) →
        (∀ name ∈ names, name ∉ Event.missed before) ∧
        (∀ arrival : List Cache.Request → List Cache.Request,
          (∀ requests, (arrival requests).Perm requests) →
          ∃ p', attempt (Judge.ofBuilds builds).compiler schema p =
              (.needs names, p') ∧
            (Phase.fetched (fetchMissing net arrival names p') :
              Phase Settings (DocumentContext (Judge.ofBuilds builds))).Gains p.cache names) ∧
        ∀ rest s, Course (Judge.ofBuilds builds).compiler net schema (.calling p)
            (.answers (.error (.missing names)) :: rest) s →
          (∀ a, .answers a ∉ rest) → s.Gains p.cache names := by
  refine ⟨Standard.judge_builds, fun builds => ⟨fun settings given names h => ?_,
    fun net settings cache before p names hcourse hanswer hnormal => ?_⟩⟩
  · obtain ⟨hne, hnodup, hnames⟩ := Judge.report_ofBuilds h
    refine ⟨hne, hnodup, fun name hname => ?_⟩
    obtain ⟨hasked, habsent⟩ := hnames name hname
    exact ⟨hasked, Documents.unclaimed_of_find? habsent⟩
  · have hcontext : (Judge.ofBuilds builds).context p.state schema p.cache =
        .error (.missing names) := by rw [← hanswer, answer_eq]
    obtain ⟨-, hnodup, hnames⟩ := Judge.report_ofBuilds hcontext
    have hreporting :
        Reporting (Judge.ofBuilds builds).compiler net schema before p names :=
      { called := ⟨settings, cache, hcourse⟩
        answer := hanswer
        nodup := hnodup
        normal := hnormal
        absent := fun name hname => Documents.contains_eq_false
          (Documents.unclaimed_of_find? (hnames name hname).2).2.1 }
    exact ⟨hreporting.not_missed, fun arrival harrival =>
      hreporting.gains_of_fetchMissing harrival, fun rest s hround hquiet =>
      hreporting.gains_of_course hround hquiet⟩

/-- A round in which the one document of a report is requested and received. -/
theorem course_of_served [SchemaContext κ] {compiler : Compiler σ κ}
    {net : Network} {schema : Value} {p : Progress σ} {uri : String}
    {r : Cache.Request} {document : Value}
    (hanswer : answer compiler schema p = .error (.missing [uri]))
    (hasked : p.asked = []) (hstart : p.cache.start uri = .request r)
    (hread : Cache.read r.name (net r.url) = .ok document) :
    ∃ rest q, Course compiler net schema (.calling p)
        (.answers (.error (.missing [uri])) :: rest) (.calling q) ∧
      ∀ a, .answers a ∉ rest := by
  obtain ⟨p', hneeds⟩ := attempt_of_missing hanswer
  obtain ⟨hcache, hsame, -⟩ := attempt_progress hneeds
  have hask : askFor p'.asked [uri] = .ok [uri] := by
    rw [hsame, hasked]
    rfl
  have hstart' : p'.cache.start uri = .request r := by rw [hcache, hstart]
  have hfinish : p'.cache.finish r (net r.url) =
      (.ok document, Documents.insert p'.cache r.name document) := by
    rw [Cache.finish, hread]
  have hbegins : Step compiler net schema
      (.fetching ([] ++ [uri]) [] { p' with asked := [uri] }) _ _ :=
    .request hstart'
  have hends : Step compiler net schema
      (.fetching [] ([] ++ [r])
        { p' with asked := [uri], requests := p'.requests ++ [r] }) _ _ :=
    .reply hfinish
  have hround := (((Course.single (.hand hneeds hask)).snoc hbegins).snoc
    hends).snoc .again
  rw [hanswer] at hround
  exact ⟨_, _, hround, by simp⟩

/-- Where there is a document. -/
def shelf : String := "http://[::]/x"

/-- The builds of a judge that asks for this document and accepts everything. -/
def askingOnce (_ : Terms) (_ : Value) : Build :=
  .ask shelf fun
    | .ok _ => .done (.ok fun _ => pure .empty)
    | .error reason => .done (.error reason)

/-- A network with the same document everywhere. -/
def servingOne : Network := fun _ => .answered 200 (some [0x31])

theorem normal_shelf : Reference.normalize shelf = shelf := by decide +kernel

theorem start_shelf : ∃ r, Cache.start .empty shelf = .request r := by
  have hremote : isRemote shelf = true := by decide +kernel
  unfold isRemote at hremote
  cases hurl : Url.parse? shelf with
  | none =>
      rw [hurl] at hremote
      cases hremote
  | some url =>
      rw [hurl] at hremote
      have hweb : url.isWeb = true := hremote
      refine ⟨⟨shelf, url⟩, ?_⟩
      simp only [Cache.start, normal_shelf, Cache.parse?_eq_some.1 hurl, hweb]
      rfl

theorem context_askingOnce (settings : Settings) :
    (Judge.ofBuilds askingOnce).context settings .null .empty =
      .error (.missing [shelf]) := by
  have hknown : (Documents.known .null .empty).find? shelf = none := by
    unfold Documents.known
    cases Schema.baseUrl? .null <;> rfl
  simp only [Judge.context, Judge.ofBuilds, askingOnce, Build.run,
    Retriever.retrieve, normal_shelf, hknown]
  rfl

theorem read_servingOne (name : String) (url : Url) :
    Cache.read name (servingOne url) = .ok (.ofInt 1) := by
  have hone : (Utf8.decode? [0x31]).bind (fun cs => Json.parse (String.ofList cs)) =
      some (.ofInt 1) := by decide +kernel
  simp only [servingOne, Cache.read, hone]
  rfl

/-- A document that is reported and served is cached after the round. -/
theorem rounds_gain_shelf :
    ∃ q rest, Course (Judge.ofBuilds askingOnce).compiler servingOne .null
        (.calling (Progress.start (Settings.ofConfig .default) .empty))
        (.answers (.error (.missing [shelf])) :: rest) (.calling q) ∧
      q.cache.contains shelf = true := by
  generalize Settings.ofConfig .default = settings
  have hanswer : answer (Judge.ofBuilds askingOnce).compiler .null
      (Progress.start settings .empty) = .error (.missing [shelf]) := by
    rw [answer_eq]
    exact context_askingOnce settings
  obtain ⟨r, hstart⟩ := start_shelf
  obtain ⟨rest, q, hround, hquiet⟩ := course_of_served hanswer rfl hstart
    (read_servingOne r.name r.url)
  have hnormal : ∀ name ∈ [shelf], Reference.Normal name := fun name hname => by
    rw [List.mem_singleton.1 hname]
    exact normal_shelf
  obtain ⟨-, -, hgains⟩ := ((rounds_gain .null).2 askingOnce).2 servingOne
    settings .empty [] (Progress.start settings .empty) [shelf] .nil hanswer
    hnormal
  exact ⟨q, rest, hround,
    ((hgains rest _ hround hquiet).2 shelf List.mem_cons_self).2⟩

end Registry

end SchemaPipeline
