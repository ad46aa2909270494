import SchemaPipeline.Engine.Scripted
import SchemaPipeline.Proofs.Fetch.Retention
import SchemaPipeline.Proofs.Registry.Coverage
import SchemaPipeline.Proofs.Registry.Course

/-!
# What a compilation does to its cache

Nothing is assumed here of the compiler or of the network, and the fetches of a
round may begin and end in any order. Two invariants carry the argument.
`Orderly` is about the documents that are fetched: each was reported missing,
and none is fetched twice. `Sound` is about the cache: it keeps what it had,
and gains only what the network serves. A request under way may still replace
what has come in since it was sent, so `Sound` also says that none of them goes
to a name that was there from the beginning.

The last point needs names that are their own normal form. A text with a blank
before its fragment can have a name that is not: the blank is inside the text
and then at the end of the name, where it is dropped. `exists_replaced` shows
what happens then.
-/

namespace SchemaPipeline.Registry

variable {σ κ : Type}

/-! ## References -/

section

variable [SchemaContext κ]

/-- Every reference of a schema has a target, in the resource that holds it. -/
def Resolves (schema : Value) (context : κ) : Prop :=
  ∀ resource ∈ Schema.collectReferences schema,
    ∀ reference ∈ resource.references, ∃ target,
      Reference.resolveIn reference
        (enterScope (Schema.baseUrl? schema) context resource.scope).2 =
          .ok target

theorem missingOf_of_resolved {base : Option Url} {context : κ}
    {references missing : List String}
    (h : ∀ reference ∈ references, ∃ target,
      Reference.resolveIn reference context = .ok target) :
    missingOf base context references missing = .ok missing := by
  induction references with
  | nil => rfl
  | cons reference rest ih =>
      obtain ⟨target, htarget⟩ := h reference List.mem_cons_self
      rw [missingOf, referenceState, htarget]
      exact ih fun r hr => h r (List.mem_cons_of_mem _ hr)

theorem missingFrom_of_resolved {base : Option Url} {context : κ}
    {resources : List Schema.ResourceReferences} {missing : List String}
    (h : ∀ resource ∈ resources, ∀ reference ∈ resource.references, ∃ target,
      Reference.resolveIn reference
        (enterScope base context resource.scope).2 = .ok target) :
    missingFrom base context resources missing = .ok missing := by
  induction resources with
  | nil => rfl
  | cons resource rest ih =>
      simp only [missingFrom,
        missingOf_of_resolved (h resource List.mem_cons_self)]
      exact ih fun r hr => h r (List.mem_cons_of_mem _ hr)

/-- No document is missing exactly when every reference has a target. -/
theorem missingDocuments_eq_nil {schema : Value} {context : κ} :
    missingDocuments schema context = .ok [] ↔ Resolves schema context :=
  ⟨fun h => (missingFrom_nil h).2, missingFrom_of_resolved⟩

variable {compiler : Compiler σ κ} {net : Network} {schema : Value}

theorem attempt_of_resolves {p : Progress σ} {context : κ}
    (hanswer : answer compiler schema p = .ok context)
    (hresolves : Resolves schema context) :
    ∃ p', attempt compiler schema p = (.done context, p') := by
  unfold answer at hanswer
  simp only [attempt, hanswer, missingDocuments_eq_nil.2 hresolves]
  exact ⟨_, rfl⟩

theorem attempt_of_invalid {p p' : Progress σ} {a : Attempt κ}
    {reason : String} (h : attempt compiler schema p = (a, p'))
    (hanswer : answer compiler schema p = .error (.invalid reason)) :
    a = .failed (.invalidSchema reason) := by
  unfold answer at hanswer
  simp only [attempt, hanswer] at h
  exact (congrArg Prod.fst h).symm

end

/-! ## What is asked for -/

/-- What is fetched was asked for, what is asked for was reported, and nothing
is fetched or asked for twice. -/
structure Orderly (trace : List (Event κ)) (s : Phase σ κ) : Prop where
  asked : s.progress.asked.Nodup
  once : (Event.begun trace ++ s.waiting).Nodup
  handed : ∀ uri ∈ Event.begun trace ++ s.waiting, uri ∈ s.progress.asked
  reported : ∀ uri ∈ s.progress.asked, uri ∈ Event.reported trace

namespace Orderly

theorem start (state : σ) (cache : Cache) :
    Orderly (κ := κ) [] (.calling (Progress.start state cache)) where
  asked := List.nodup_nil
  once := List.nodup_nil
  handed _ h := by cases h
  reported _ h := by cases h

theorem begun {trace : List (Event κ)} {s : Phase σ κ} (h : Orderly trace s) :
    (Event.begun trace).Nodup := (List.nodup_append.1 h.once).1

/-- A document that has waited is the next to be fetched. -/
theorem begins {trace : List (Event κ)} {p : Progress σ}
    {before after : List String} {flying : List Cache.Request} {uri : String}
    (h : Orderly trace (.fetching (before ++ uri :: after) flying p))
    (start : Cache.Start) (flying' : List Cache.Request)
    (requests : List Cache.Request) :
    Orderly (trace ++ [.begins uri start])
      (.fetching (before ++ after) flying' { p with requests := requests }) := by
  have hperm : (Event.begun trace ++ (before ++ uri :: after)).Perm
      (Event.begun (trace ++ [.begins uri start]) ++ (before ++ after)) := by
    rw [Event.begun_append, List.append_assoc]
    exact List.perm_middle.append_left _
  exact {
    asked := h.asked
    once := hperm.nodup_iff.1 h.once
    handed := fun u hu => h.handed u (hperm.mem_iff.2 hu)
    reported := fun u hu => by
      rw [Event.reported_append]
      exact List.mem_append_left _ (h.reported u hu) }

/-- Steps that begin no fetch and ask for nothing. -/
theorem goes_on {trace : List (Event κ)} {s t : Phase σ κ}
    (h : Orderly trace s) (events : List (Event κ))
    (hbegun : Event.begun events = [])
    (hasked : t.progress.asked = s.progress.asked)
    (hwaiting : t.waiting = s.waiting ∨ t.waiting = []) :
    Orderly (trace ++ events) t := by
  have hsub : (Event.begun (trace ++ events) ++ t.waiting).Sublist
      (Event.begun trace ++ s.waiting) := by
    rw [Event.begun_append, hbegun, List.append_nil]
    rcases hwaiting with hsame | hnone
    · simp only [hsame, List.Sublist.refl]
    · rw [hnone, List.append_nil]
      exact List.sublist_append_left _ _
  exact {
    asked := hasked ▸ h.asked
    once := hsub.nodup h.once
    handed := fun u hu => by
      rw [hasked]
      exact h.handed u (hsub.subset hu)
    reported := fun u hu => by
      rw [hasked] at hu
      rw [Event.reported_append]
      exact List.mem_append_left _ (h.reported u hu) }

theorem step [SchemaContext κ] {compiler : Compiler σ κ} {net : Network}
    {schema : Value} {trace events : List (Event κ)} {s t : Phase σ κ}
    (h : Orderly trace s) (hstep : Step compiler net schema s events t) :
    Orderly (trace ++ events) t := by
  cases hstep with
  | done hattempt | failed hattempt | twice hattempt _ =>
      exact h.goes_on _ rfl (attempt_progress hattempt).2.1 (.inr rfl)
  | hand hattempt hask =>
      obtain ⟨rfl, hnodup⟩ := askFor_ok hask
      rw [(attempt_progress hattempt).2.1] at hnodup ⊢
      refine {
        asked := hnodup h.asked
        once := ?_
        handed := ?_
        reported := ?_ }
      · have hbegun : ∀ uri ∈ Event.begun trace, uri ∈ _ := fun uri huri =>
          h.handed uri (List.mem_append_left _ huri)
        rw [Event.begun_append]
        simp only [Event.begun, List.append_nil]
        obtain ⟨-, huris, hdisjoint⟩ := List.nodup_append.1 (hnodup h.asked)
        exact List.nodup_append.2 ⟨h.begun, huris,
          fun u hu v hv => hdisjoint u (hbegun u hu) v hv⟩
      · intro uri huri
        rw [Event.begun_append] at huri
        simp only [Event.begun, List.append_nil] at huri
        rcases List.mem_append.1 huri with hold | hnew
        · exact List.mem_append_left _ (h.handed uri (List.mem_append_left _ hold))
        · exact List.mem_append_right _ hnew
      · intro uri huri
        rw [Event.reported_append]
        rcases List.mem_append.1 huri with hold | hnew
        · exact List.mem_append_left _ (h.reported uri hold)
        · exact List.mem_append_right _ (List.mem_append_left _ hnew)
  | hit _ => exact h.begins _ _ _
  | request _ => exact h.begins _ _ _
  | @refused p _ _ _ _ e _ =>
      have hbegins := h.begins (.refused e) [] p.requests
      simpa using hbegins.goes_on (t := .ended (.error (.fetch e)) p)
        [] rfl rfl (.inr rfl)
  | reply _ => exact h.goes_on _ rfl rfl (.inl rfl)
  | broken _ => exact h.goes_on _ rfl rfl (.inr rfl)
  | again => exact h.goes_on _ rfl rfl (.inr rfl)

end Orderly

/-! ## What is in the cache -/

/-- The cache keeps what is under normal names, and gains what the network
serves under the names of documents that were asked for. -/
structure Sound (net : Network) (cache : Cache) (trace : List (Event κ))
    (s : Phase σ κ) : Prop where
  kept : ∀ name document, Reference.Normal name →
    cache.find? name = some document →
    s.progress.cache.find? name = some document
  gained : ∀ name document, s.progress.cache.find? name = some document →
    cache.find? name = some document ∨
      ∃ uri r, .begins uri (.request r) ∈ trace ∧
        name = Reference.normalize uri ∧ Cache.Served net name document
  flying : ∀ r ∈ s.flying,
    (∃ uri, .begins uri (.request r) ∈ trace ∧
        r.name = Reference.normalize uri) ∧
      Url.parse r.name = .ok r.url ∧ r.url.isWeb = true ∧
      (Reference.Normal r.name → cache.find? r.name = none)

namespace Sound

variable {net : Network} {cache : Cache}

theorem start (state : σ) (cache : Cache) :
    Sound (κ := κ) net cache [] (.calling (Progress.start state cache)) where
  kept _ _ _ h := h
  gained _ _ h := .inl h
  flying _ h := by cases h

/-- Steps that leave the cache alone and send nothing. -/
theorem goes_on {trace : List (Event κ)} {s t : Phase σ κ}
    (h : Sound net cache trace s) (events : List (Event κ))
    (hcache : t.progress.cache = s.progress.cache)
    (hflying : t.flying ⊆ s.flying) : Sound net cache (trace ++ events) t where
  kept name document hnormal hfind := by
    rw [hcache]
    exact h.kept name document hnormal hfind
  gained name document hfind := by
    rw [hcache] at hfind
    refine (h.gained name document hfind).imp_right ?_
    rintro ⟨uri, r, hmem, hrest⟩
    exact ⟨uri, r, List.mem_append_left _ hmem, hrest⟩
  flying r hr := by
    obtain ⟨⟨uri, hmem, hname⟩, hrest⟩ := h.flying r (hflying hr)
    exact ⟨⟨uri, List.mem_append_left _ hmem, hname⟩, hrest⟩

/-- A request is sent for a name that is not there. -/
theorem request {trace : List (Event κ)} {p : Progress σ}
    {waiting waiting' : List String} {flying requests : List Cache.Request}
    {uri : String} {r : Cache.Request}
    (h : Sound net cache trace (.fetching waiting flying p))
    (hstart : p.cache.start uri = .request r) :
    Sound net cache (trace ++ [.begins uri (.request r)])
      (.fetching waiting' (flying ++ [r]) { p with requests := requests }) := by
  have hon := h.goes_on (t := .fetching waiting' flying p)
    [.begins uri (.request r)] rfl (List.Subset.refl _)
  refine ⟨hon.kept, hon.gained, fun q hq => ?_⟩
  rcases List.mem_append.1 hq with hold | hnew
  · exact hon.flying q hold
  · rw [List.mem_singleton.1 hnew]
    obtain ⟨hnone, hname, hurl, hweb⟩ := Cache.start_request hstart
    refine ⟨⟨uri, by simp, hname⟩, hurl, hweb, fun hnormal => ?_⟩
    cases hfind : cache.find? r.name with
    | none => rfl
    | some document =>
        have hthere := h.kept r.name document hnormal hfind
        rw [← hname, Cache.get?, hnormal] at hnone
        cases hnone.symm.trans hthere

/-- A reply changes the cache under the name of its request only. -/
theorem ends {trace : List (Event κ)} {p : Progress σ} {waiting : List String}
    {before after : List Cache.Request} {r : Cache.Request}
    {result : Except FetchError Value} {c : Cache}
    (h : Sound net cache trace (.fetching waiting (before ++ r :: after) p))
    (hfinish : p.cache.finish r (net r.url) = (result, c)) :
    Sound net cache (trace ++ [.ends r result])
      (.fetching waiting (before ++ after) { p with cache := c }) := by
  have hsubset : before ++ after ⊆ before ++ r :: after := by simp
  have hon := h.goes_on (t := .fetching waiting (before ++ after) p)
    [.ends r result] rfl hsubset
  obtain ⟨⟨uri, hmem, hname⟩, hurl, hweb, hnone⟩ :=
    h.flying r (List.mem_append_right _ List.mem_cons_self)
  have hfind := Cache.find?_finish hurl hweb hfinish
  refine ⟨fun name document hnormal hthere => ?_, fun name document hthere => ?_,
    hon.flying⟩
  · rcases hfind name with hsame | ⟨rfl, -⟩
    · exact hsame.trans (hon.kept name document hnormal hthere)
    · rw [hnone hnormal] at hthere
      cases hthere
  · rcases hfind name with hsame | ⟨rfl, served, hserved, hnet⟩
    · exact hon.gained name document (hsame.symm.trans hthere)
    · have heq : served = document := Option.some.inj (hserved.symm.trans hthere)
      exact .inr ⟨uri, r, List.mem_append_left _ hmem, hname, heq ▸ hnet⟩

theorem step [SchemaContext κ] {compiler : Compiler σ κ} {schema : Value}
    {trace events : List (Event κ)} {s t : Phase σ κ}
    (h : Sound net cache trace s) (hstep : Step compiler net schema s events t) :
    Sound net cache (trace ++ events) t := by
  cases hstep with
  | done hattempt | failed hattempt | twice hattempt _ | hand hattempt _ =>
      exact h.goes_on _ (attempt_progress hattempt).1 (List.nil_subset _)
  | hit _ => exact h.goes_on _ rfl (List.Subset.refl _)
  | refused _ => exact h.goes_on _ rfl (List.nil_subset _)
  | request hstart => exact h.request hstart
  | reply hfinish => exact h.ends hfinish
  | @broken p _ _ _ _ e c hfinish =>
      have hends := h.ends hfinish
      simpa using hends.goes_on
        (t := .ended (.error (.fetch e)) { p with cache := c }) [] rfl
        (List.nil_subset _)
  | again => exact h.goes_on _ rfl (List.Subset.refl _)

end Sound

/-! ## How a compilation begins and ends -/

section

variable [SchemaContext κ] {compiler : Compiler σ κ} {net : Network}
  {schema : Value} {state : σ} {cache : Cache} {trace : List (Event κ)}
  {s : Phase σ κ}

theorem orderly_of_course
    (h : Course compiler net schema (.calling (Progress.start state cache)) trace
      s) : Orderly trace s := by
  induction h with
  | nil => exact .start state cache
  | snoc _ hstep ih => exact ih.step hstep

theorem sound_of_course
    (h : Course compiler net schema (.calling (Progress.start state cache)) trace
      s) : Sound net cache trace s := by
  induction h with
  | nil => exact .start state cache
  | snoc _ hstep ih => exact ih.step hstep

/-- A fetch begins with a look at the cache, for a document that has waited. -/
theorem Step.begins {t : Phase σ κ} {events : List (Event κ)} {uri : String}
    {start : Cache.Start} (h : Step compiler net schema s events t)
    (hmem : .begins uri start ∈ events) :
    uri ∈ s.waiting ∧ start = s.progress.cache.start uri := by
  cases h with
  | hit hstart | refused hstart | request hstart =>
      cases List.mem_singleton.1 hmem
      exact ⟨List.mem_append_right _ List.mem_cons_self, hstart.symm⟩
  | done | failed | reply | broken => cases List.mem_singleton.1 hmem
  | twice | hand => simp at hmem
  | again => cases hmem

/-- If the first call leaves nothing open, it is the only step. -/
theorem Course.of_done {p p' : Progress σ} {context : κ}
    (hdone : attempt compiler schema p = (.done context, p'))
    (h : Course compiler net schema (.calling p) trace s) :
    trace = [] ∧ s = .calling p ∨
      trace = [.answers (answer compiler schema p)] ∧
        s = .ended (.ok context) p' := by
  induction h with
  | nil => exact .inl ⟨rfl, rfl⟩
  | snoc _ hstep ih =>
      rcases ih with ⟨rfl, rfl⟩ | ⟨-, rfl⟩
      · refine .inr ?_
        cases hstep with
        | done hattempt =>
            cases hdone.symm.trans hattempt
            exact ⟨rfl, rfl⟩
        | failed hattempt | twice hattempt _ | hand hattempt _ =>
            cases hdone.symm.trans hattempt
      · cases hstep

theorem Step.of_invalid {reason : String} {events : List (Event κ)}
    {t : Phase σ κ} (h : Step compiler net schema s events t)
    (hmem : .answers (.error (.invalid reason)) ∈ events) :
    events = [.answers (.error (.invalid reason))] ∧
      ∃ q, t = .ended (.error (.invalidSchema reason)) q := by
  cases h with
  | done hattempt =>
      have hanswer := Event.answers.inj (List.mem_singleton.1 hmem)
      cases attempt_of_invalid hattempt hanswer.symm
  | failed hattempt =>
      have hanswer := Event.answers.inj (List.mem_singleton.1 hmem)
      cases attempt_of_invalid hattempt hanswer.symm
      exact ⟨by rw [hanswer], _, rfl⟩
  | @twice p _ _ _ hattempt _ | @hand p _ _ _ hattempt _ =>
      have hanswer : .error (.invalid reason) = answer compiler schema p := by
        simpa using hmem
      cases attempt_of_invalid hattempt hanswer.symm
  | hit | refused | request | reply | broken =>
      cases List.mem_singleton.1 hmem
  | again => cases hmem

/-- When the compiler rejects the schema, nothing comes after. -/
theorem Course.of_invalid {reason : String} {p : Phase σ κ}
    (h : Course compiler net schema p trace s)
    (hmem : .answers (.error (.invalid reason)) ∈ trace) :
    ∃ before q, trace = before ++ [.answers (.error (.invalid reason))] ∧
      s = .ended (.error (.invalidSchema reason)) q := by
  induction h with
  | nil => cases hmem
  | snoc _ hstep ih =>
      rcases List.mem_append.1 hmem with hold | hnew
      · obtain ⟨-, q, -, rfl⟩ := ih hold
        cases hstep
      · obtain ⟨rfl, q, rfl⟩ := hstep.of_invalid hnew
        exact ⟨_, q, rfl, rfl⟩

/-- What is handed out is what the last call of the compiler gave, and its
references have targets. -/
theorem Course.of_accepted {p : Phase σ κ} {q : Progress σ} {context : κ}
    (h : Course compiler net schema p trace s) (hs : s = .ended (.ok context) q)
    (hp : ∀ q, p ≠ .ended (.ok context) q) :
    (∃ before, trace = before ++ [.answers (.ok context)]) ∧
      Resolves schema context := by
  cases h with
  | nil => exact absurd hs (hp q)
  | @snoc trace events t u _ hstep =>
      subst hs
      cases hstep with
      | done hattempt =>
          obtain ⟨hanswer, hnone⟩ := attempt_done hattempt
          refine ⟨⟨trace, ?_⟩, missingDocuments_eq_nil.1 hnone⟩
          rw [show answer compiler schema _ = .ok context from hanswer]

end

/-! ## Safety -/

/-- What can be relied on after any number of steps of a compilation. -/
structure Safe [SchemaContext κ] (compiler : Compiler σ κ) (net : Network)
    (schema : Value) (state : σ) (cache : Cache) (trace : List (Event κ))
    (s : Phase σ κ) : Prop where
  /-- No document is fetched twice. -/
  once : (Event.begun trace).Nodup
  /-- A document is not fetched before it was reported missing. -/
  reported : ∀ t events uri start, Step compiler net schema s events t →
    .begins uri start ∈ events → uri ∈ Event.reported trace
  /-- A document that is cached under a normal name is not asked for. -/
  hit : ∀ t events uri start document, Step compiler net schema s events t →
    .begins uri start ∈ events →
    Reference.Normal (Reference.normalize uri) →
    s.progress.cache.get? uri = some document → start = .hit document
  /-- Without missing documents there is no fetch and no request. -/
  quiet : ∀ context,
    answer compiler schema (Progress.start state cache) = .ok context →
    Resolves schema context →
    Event.begun trace = [] ∧ s.progress.requests = []
  /-- What was cached under a normal name is cached. -/
  kept : ∀ name document, Reference.Normal name →
    cache.find? name = some document →
    s.progress.cache.find? name = some document
  /-- What is cached was cached or is served for a reported document. -/
  gained : ∀ name document, s.progress.cache.find? name = some document →
    cache.find? name = some document ∨
      ∃ uri ∈ Event.reported trace, name = Reference.normalize uri ∧
        Cache.Served net name document
  /-- A rejected schema ends the compilation. -/
  invalid : ∀ reason, .answers (.error (.invalid reason)) ∈ trace →
    ∃ before p, trace = before ++ [.answers (.error (.invalid reason))] ∧
      s = .ended (.error (.invalidSchema reason)) p
  /-- An accepted schema has the context of the last call, and its references
  have targets. -/
  accepted : ∀ context p, s = .ended (.ok context) p →
    (∃ before, trace = before ++ [.answers (.ok context)]) ∧
      Resolves schema context

/-- Every course of a compilation is safe, in whatever order its fetches begin
and end, and `compileWithin` follows such a course. -/
theorem compilation_safe [SchemaContext κ] (compiler : Compiler σ κ)
    (net : Network) (schema : Value) (state : σ) (cache : Cache) :
    (∀ arrival : List Cache.Request → List Cache.Request,
      (∀ requests, (arrival requests).Perm requests) → ∀ calls,
        ∃ trace, Course compiler net schema
          (.calling (Progress.start state cache)) trace
          (.after (compileWithin compiler net arrival schema calls
            (Progress.start state cache)))) ∧
      ∀ trace s, Course compiler net schema
          (.calling (Progress.start state cache)) trace s →
        Safe compiler net schema state cache trace s := by
  refine ⟨fun arrival harrival calls =>
    course_of_compileWithin harrival calls _, fun trace s h => ?_⟩
  have horderly := orderly_of_course h
  have hsound := sound_of_course h
  exact {
    once := horderly.begun
    reported := fun t events uri start hstep hmem =>
      horderly.reported uri (horderly.handed uri
        (List.mem_append_right _ (hstep.begins hmem).1))
    hit := fun t events uri start document hstep hmem hnormal hfound =>
      (hstep.begins hmem).2.trans (Cache.start_of_get? hnormal hfound)
    quiet := fun context hanswer hresolves => by
      obtain ⟨p', hdone⟩ := attempt_of_resolves hanswer hresolves
      rcases Course.of_done hdone h with ⟨rfl, rfl⟩ | ⟨rfl, rfl⟩
      · exact ⟨rfl, rfl⟩
      · exact ⟨rfl, (attempt_progress hdone).2.2⟩
    kept := hsound.kept
    gained := fun name document hfind => by
      refine (hsound.gained name document hfind).imp_right ?_
      rintro ⟨uri, r, hmem, hname, hserved⟩
      have hbegun : uri ∈ Event.begun trace := Event.mem_begun.2 ⟨_, hmem⟩
      exact ⟨uri, horderly.reported uri (horderly.handed uri
        (List.mem_append_left _ hbegun)), hname, hserved⟩
    invalid := fun reason hmem => h.of_invalid hmem
    accepted := fun context p hs => h.of_accepted hs fun q hq => by cases hq }

/-! ## A name that is not its own normal form -/

/-- A compiler that misses one document and then accepts the schema. -/
def missingOnce (uri : String) : Compiler Scripted.State Scripted.Context :=
  Scripted.compiler ⟨[.missing [uri], .ready], [], [], false⟩

/-- A cache with one document. -/
def caching (uri : String) : Cache := Cache.put .empty uri (.bool true)

/-- The blank before the fragment keeps the text from being a URL, and is
dropped from the name. A cached document is then asked for, here in vain, and
there it is replaced. -/
theorem exists_replaced :
    ((caching "foo://a #x").get? "foo://a #x" = some (.bool true) ∧
      (compileWithin (missingOnce "foo://a #x") Network.unreachable id .null 2
          (Progress.start .start (caching "foo://a #x"))).1 =
        some (.error (.fetch
          (.invalidUri "foo://a " "unsupported scheme 'foo'")))) ∧
      (caching "http://[::1] #x").find? "http://[::1] " = some (.bool true) ∧
      (compileWithin (missingOnce "http://[::1] #x")
          (fun _ => .answered 200 (some [0x31])) id .null 2
          (Progress.start .start (caching "http://[::1] #x"))).2.cache.find?
            "http://[::1] " = some (.ofInt 1) :=
  ⟨⟨by decide +kernel, rfl⟩, by decide +kernel, by decide +kernel⟩

end SchemaPipeline.Registry
