import SchemaPipeline.Registry.Compile

/-!
# The course of a compilation

`compileWithin` does the fetches of a round in one go: all of them begin, and
then the replies come in, in an order that is given. That is one of many ways
for a round to go. Here a compilation is told in single steps. A document that
waits may begin to be fetched at any time, a request under way may be answered
at any time, the next round starts when nothing waits and nothing is under way,
and the first failure is the end. Each step says what could be seen of it.

`course_of_compileWithin` says that the function takes such steps, whatever the
order of the replies. What is proved of every course therefore holds for it, and
does not depend on who comes first.
-/

namespace SchemaPipeline.Registry

variable {σ κ : Type}

/-- Before the first round. -/
def Progress.start (state : σ) (cache : Cache) : Progress σ :=
  ⟨state, cache, [], []⟩

/-- Where a compilation stands: before a call of the compiler, in the fetches
of a round, or at its end. -/
inductive Phase (σ κ : Type) where
  | calling (p : Progress σ)
  | fetching (waiting : List String) (flying : List Cache.Request)
      (p : Progress σ)
  | ended (outcome : Except CompileError κ) (p : Progress σ)

namespace Phase

def progress : Phase σ κ → Progress σ
  | .calling p | .fetching _ _ p | .ended _ p => p

/-- The documents that are yet to be fetched in this round. -/
def waiting : Phase σ κ → List String
  | .fetching waiting _ _ => waiting
  | _ => []

/-- The requests without a reply. -/
def flying : Phase σ κ → List Cache.Request
  | .fetching _ flying _ => flying
  | _ => []

/-- Where the replies of a round lead. -/
def replied : Except FetchError Unit × Cache → Progress σ → Phase σ κ
  | (.ok (), cache), p => .calling { p with cache := cache }
  | (.error e, cache), p =>
    .ended (.error (.fetch e)) { p with cache := cache }

theorem replied_cache (outcome : Except FetchError Unit × Cache)
    (p : Progress σ) (cache : Cache) :
    (replied outcome { p with cache := cache } : Phase σ κ) =
      replied outcome p := by
  obtain ⟨result, final⟩ := outcome
  cases result <;> rfl

/-- Where a round of fetching leads. -/
def fetched : Except CompileError Unit × Progress σ → Phase σ κ
  | (.ok (), p) => .calling p
  | (.error e, p) => .ended (.error e) p

/-- Where a bounded number of rounds leads. -/
def after : Option (Except CompileError κ) × Progress σ → Phase σ κ
  | (none, p) => .calling p
  | (some outcome, p) => .ended outcome p

end Phase

/-- What can be seen of a compilation: an answer of the compiler, the documents
that it or the check of references reports missing, the beginning of a fetch
with what the cache says to it, and the end of a request. -/
inductive Event (κ : Type) where
  | answers (answer : Except EngineError κ)
  | reports (uris : List String)
  | begins (uri : String) (start : Cache.Start)
  | ends (request : Cache.Request) (result : Except FetchError Value)

namespace Event

/-- The documents whose fetches have begun. -/
def begun : List (Event κ) → List String
  | [] => []
  | .begins uri _ :: rest => uri :: begun rest
  | _ :: rest => begun rest

/-- The documents that were reported missing. -/
def reported : List (Event κ) → List String
  | [] => []
  | .reports uris :: rest => uris ++ reported rest
  | _ :: rest => reported rest

theorem begun_append (trace events : List (Event κ)) :
    begun (trace ++ events) = begun trace ++ begun events := by
  induction trace with
  | nil => rfl
  | cons e rest ih => cases e <;> simp [begun, ih]

theorem reported_append (trace events : List (Event κ)) :
    reported (trace ++ events) = reported trace ++ reported events := by
  induction trace with
  | nil => rfl
  | cons e rest ih => cases e <;> simp [reported, ih]

theorem mem_begun {trace : List (Event κ)} {uri : String} :
    uri ∈ begun trace ↔ ∃ start, .begins uri start ∈ trace := by
  induction trace with
  | nil => simp [begun]
  | cons e rest ih => cases e <;> simp [begun, ih, exists_or]

end Event

section

variable [SchemaContext κ]

/-- What the compiler answers to a call. -/
def answer (compiler : Compiler σ κ) (schema : Value) (p : Progress σ) :
    Except EngineError κ :=
  (compiler.compile schema p.cache p.state).1

/-- One step of a compilation, with what can be seen of it. -/
inductive Step (compiler : Compiler σ κ) (net : Network) (schema : Value) :
    Phase σ κ → List (Event κ) → Phase σ κ → Prop where
  | done {p p' : Progress σ} {context : κ}
      (h : attempt compiler schema p = (.done context, p')) :
      Step compiler net schema (.calling p) [.answers (answer compiler schema p)]
        (.ended (.ok context) p')
  | failed {p p' : Progress σ} {e : CompileError}
      (h : attempt compiler schema p = (.failed e, p')) :
      Step compiler net schema (.calling p) [.answers (answer compiler schema p)]
        (.ended (.error e) p')
  | twice {p p' : Progress σ} {uris : List String} {e : CompileError}
      (h : attempt compiler schema p = (.needs uris, p'))
      (hask : askFor p'.asked uris = .error e) :
      Step compiler net schema (.calling p)
        [.answers (answer compiler schema p), .reports uris]
        (.ended (.error e) p')
  | hand {p p' : Progress σ} {uris asked : List String}
      (h : attempt compiler schema p = (.needs uris, p'))
      (hask : askFor p'.asked uris = .ok asked) :
      Step compiler net schema (.calling p)
        [.answers (answer compiler schema p), .reports uris]
        (.fetching uris [] { p' with asked := asked })
  | hit {p : Progress σ} {before after : List String}
      {flying : List Cache.Request} {uri : String} {document : Value}
      (h : p.cache.start uri = .hit document) :
      Step compiler net schema (.fetching (before ++ uri :: after) flying p)
        [.begins uri (.hit document)] (.fetching (before ++ after) flying p)
  | refused {p : Progress σ} {before after : List String}
      {flying : List Cache.Request} {uri : String} {e : FetchError}
      (h : p.cache.start uri = .refused e) :
      Step compiler net schema (.fetching (before ++ uri :: after) flying p)
        [.begins uri (.refused e)] (.ended (.error (.fetch e)) p)
  | request {p : Progress σ} {before after : List String}
      {flying : List Cache.Request} {uri : String} {r : Cache.Request}
      (h : p.cache.start uri = .request r) :
      Step compiler net schema (.fetching (before ++ uri :: after) flying p)
        [.begins uri (.request r)]
        (.fetching (before ++ after) (flying ++ [r])
          { p with requests := p.requests ++ [r] })
  | reply {p : Progress σ} {waiting : List String}
      {before after : List Cache.Request} {r : Cache.Request}
      {document : Value} {cache : Cache}
      (h : p.cache.finish r (net r.url) = (.ok document, cache)) :
      Step compiler net schema (.fetching waiting (before ++ r :: after) p)
        [.ends r (.ok document)]
        (.fetching waiting (before ++ after) { p with cache := cache })
  | broken {p : Progress σ} {waiting : List String}
      {before after : List Cache.Request} {r : Cache.Request}
      {e : FetchError} {cache : Cache}
      (h : p.cache.finish r (net r.url) = (.error e, cache)) :
      Step compiler net schema (.fetching waiting (before ++ r :: after) p)
        [.ends r (.error e)]
        (.ended (.error (.fetch e)) { p with cache := cache })
  | again {p : Progress σ} :
      Step compiler net schema (.fetching [] [] p) [] (.calling p)

/-- Steps one after the other, with all that could be seen. -/
inductive Course (compiler : Compiler σ κ) (net : Network) (schema : Value)
    (s : Phase σ κ) : List (Event κ) → Phase σ κ → Prop where
  | nil : Course compiler net schema s [] s
  | snoc {trace events : List (Event κ)} {t u : Phase σ κ}
      (h : Course compiler net schema s trace t)
      (hstep : Step compiler net schema t events u) :
      Course compiler net schema s (trace ++ events) u

variable {compiler : Compiler σ κ} {net : Network} {schema : Value}

theorem Course.single {s t : Phase σ κ} {events : List (Event κ)}
    (h : Step compiler net schema s events t) :
    Course compiler net schema s events t := by
  simpa using Course.snoc Course.nil h

theorem Course.trans {s t u : Phase σ κ} {trace more : List (Event κ)}
    (h : Course compiler net schema s trace t)
    (h' : Course compiler net schema t more u) :
    Course compiler net schema s (trace ++ more) u := by
  induction h' with
  | nil => simpa using h
  | snoc _ hstep ih =>
      rw [← List.append_assoc]
      exact ih.snoc hstep

/-! ## What a call of the compiler changes -/

theorem attempt_progress {p p' : Progress σ} {a : Attempt κ}
    (h : attempt compiler schema p = (a, p')) :
    p'.cache = p.cache ∧ p'.asked = p.asked ∧ p'.requests = p.requests := by
  have hp : (attempt compiler schema p).2 =
      { p with state := (compiler.compile schema p.cache p.state).2 } := by
    simp only [attempt]
    split
    · rfl
    · rfl
    · split <;> rfl
  rw [h] at hp
  cases hp
  exact ⟨rfl, rfl, rfl⟩

theorem askFor_ok {asked uris asked' : List String}
    (h : askFor asked uris = .ok asked') :
    asked' = asked ++ uris ∧ (asked.Nodup → asked'.Nodup) := by
  induction uris generalizing asked with
  | nil =>
      cases h
      exact ⟨(List.append_nil _).symm, id⟩
  | cons uri rest ih =>
      rw [askFor] at h
      split at h
      · cases h
      · next hnew =>
          obtain ⟨heq, hnodup⟩ := ih h
          refine ⟨by rw [heq, List.append_assoc]; rfl, fun hasked => ?_⟩
          have huri : uri ∉ asked := by simpa using hnew
          exact hnodup ((List.perm_append_singleton uri asked).nodup_iff.2
            (List.nodup_cons.2 ⟨huri, hasked⟩))

/-! ## The rounds of `compileWithin` -/

section

variable (compiler net schema)

/-- If all fetches begin at once, they become requests one after the other. -/
theorem course_of_startAll {uris : List String} (p : Progress σ)
    (flying : List Cache.Request) {requests : List Cache.Request}
    (h : p.cache.startAll uris = .ok requests) :
    ∃ trace, Course compiler net schema (.fetching uris flying p) trace
      (.fetching [] (flying ++ requests)
        { p with requests := p.requests ++ requests }) := by
  induction uris generalizing flying p requests with
  | nil =>
      cases h
      simp only [List.append_nil]
      exact ⟨[], .nil⟩
  | cons uri rest ih =>
      rw [Cache.startAll] at h
      cases hstart : p.cache.start uri with
      | refused e =>
          rw [hstart] at h
          cases h
      | hit document =>
          rw [hstart] at h
          obtain ⟨trace, hcourse⟩ := ih p flying h
          have hhit : Step compiler net schema
              (.fetching ([] ++ uri :: rest) flying p) _
              (.fetching ([] ++ rest) flying p) := .hit hstart
          exact ⟨_, (Course.single hhit).trans hcourse⟩
      | request r =>
          simp only [hstart] at h
          cases hrest : p.cache.startAll rest with
          | error e =>
              rw [hrest] at h
              cases h
          | ok others =>
              rw [hrest] at h
              cases h
              obtain ⟨trace, hcourse⟩ :=
                ih { p with requests := p.requests ++ [r] } (flying ++ [r]) hrest
              rw [List.append_assoc, List.append_assoc] at hcourse
              have hrequest : Step compiler net schema
                  (.fetching ([] ++ uri :: rest) flying p) _
                  (.fetching ([] ++ rest) (flying ++ [r])
                    { p with requests := p.requests ++ [r] }) := .request hstart
              exact ⟨_, (Course.single hrequest).trans hcourse⟩

/-- A refusal shows before any request is made. -/
theorem course_of_startAll_error {uris : List String} (p : Progress σ)
    (flying : List Cache.Request) {e : FetchError}
    (h : p.cache.startAll uris = .error e) :
    ∃ trace, Course compiler net schema (.fetching uris flying p) trace
      (.ended (.error (.fetch e)) p) := by
  obtain ⟨before, uri, after, rfl, hstart⟩ :
      ∃ before uri after, uris = before ++ uri :: after ∧
        p.cache.start uri = .refused e := by
    induction uris with
    | nil => cases h
    | cons uri rest ih =>
        rw [Cache.startAll] at h
        cases hstart : p.cache.start uri with
        | refused e' =>
            rw [hstart] at h
            cases h
            exact ⟨[], uri, rest, rfl, hstart⟩
        | hit document =>
            rw [hstart] at h
            obtain ⟨before, found, after, rfl, hfound⟩ := ih h
            exact ⟨uri :: before, found, after, rfl, hfound⟩
        | request r =>
            simp only [hstart] at h
            cases hrest : p.cache.startAll rest with
            | ok others =>
                rw [hrest] at h
                cases h
            | error e' =>
                rw [hrest] at h
                cases h
                obtain ⟨before, found, after, rfl, hfound⟩ := ih hrest
                exact ⟨uri :: before, found, after, rfl, hfound⟩
  exact ⟨_, .single (.refused hstart)⟩

/-- The replies may come in any order. -/
theorem course_of_finishAll {order flying : List Cache.Request}
    (hperm : flying.Perm order) (p : Progress σ) :
    ∃ trace, Course compiler net schema (.fetching [] flying p) trace
      (.replied (Cache.finishAll net p.cache order) p) := by
  induction order generalizing flying p with
  | nil =>
      rw [List.perm_nil.1 hperm]
      exact ⟨_, .single .again⟩
  | cons r rest ih =>
      obtain ⟨before, after, rfl⟩ :=
        List.append_of_mem (hperm.mem_iff.2 List.mem_cons_self)
      have hrest : (before ++ after).Perm rest :=
        (List.perm_middle.symm.trans hperm).cons_inv
      rw [Cache.finishAll]
      cases hfinish : p.cache.finish r (net r.url) with
      | mk result cache =>
          cases result with
          | error e => exact ⟨_, .single (.broken hfinish)⟩
          | ok document =>
              obtain ⟨trace, hcourse⟩ := ih hrest { p with cache := cache }
              rw [Phase.replied_cache] at hcourse
              exact ⟨_, (Course.single (.reply hfinish)).trans hcourse⟩

end

variable (net) in
theorem course_of_fetchMissing {arrival : List Cache.Request → List Cache.Request}
    (harrival : ∀ requests, (arrival requests).Perm requests)
    {uris : List String} {p p' : Progress σ}
    (h : attempt compiler schema p = (.needs uris, p')) :
    ∃ trace, Course compiler net schema (.calling p) trace
      (.fetched (fetchMissing net arrival uris p')) := by
  rw [fetchMissing]
  cases hask : askFor p'.asked uris with
  | error e => exact ⟨_, .single (.twice h hask)⟩
  | ok asked =>
      have hhand : Course compiler net schema (.calling p) _ _ :=
        .single (.hand h hask)
      simp only [Cache.fetchAll]
      cases hstart : p'.cache.startAll uris with
      | error e =>
          obtain ⟨trace, hcourse⟩ := course_of_startAll_error compiler net schema
            { p' with asked := asked } [] hstart
          simp only [List.append_nil]
          exact ⟨_, hhand.trans hcourse⟩
      | ok requests =>
          obtain ⟨begins, hbegins⟩ := course_of_startAll compiler net schema
            { p' with asked := asked } [] hstart
          obtain ⟨ends, hends⟩ := course_of_finishAll compiler net schema
            (harrival requests).symm
            { p' with asked := asked, requests := p'.requests ++ requests }
          have hround := (hhand.trans hbegins).trans hends
          simp only at hround ⊢
          cases hreplies : Cache.finishAll net p'.cache (arrival requests) with
          | mk result cache =>
              rw [hreplies] at hround
              cases result with
              | ok u => exact ⟨_, hround⟩
              | error e => exact ⟨_, hround⟩

/-- What `compileWithin` does is a course of steps, in whatever order the
replies come. -/
theorem course_of_compileWithin
    {arrival : List Cache.Request → List Cache.Request}
    (harrival : ∀ requests, (arrival requests).Perm requests) (calls : Nat)
    (p : Progress σ) :
    ∃ trace, Course compiler net schema (.calling p) trace
      (.after (compileWithin compiler net arrival schema calls p)) := by
  induction calls generalizing p with
  | zero => exact ⟨[], .nil⟩
  | succ calls ih =>
      rw [compileWithin]
      cases hattempt : attempt compiler schema p with
      | mk a p' =>
          cases a with
          | done context => exact ⟨_, .single (.done hattempt)⟩
          | failed e => exact ⟨_, .single (.failed hattempt)⟩
          | needs uris =>
              obtain ⟨trace, hround⟩ :=
                course_of_fetchMissing net harrival hattempt
              simp only
              cases hfetch : fetchMissing net arrival uris p' with
              | mk result q =>
                  rw [hfetch] at hround
                  cases result with
                  | error e => exact ⟨trace, hround⟩
                  | ok u =>
                      obtain ⟨more, hmore⟩ := ih q
                      exact ⟨_, hround.trans hmore⟩

end

end SchemaPipeline.Registry
