import SchemaPipeline.Proofs.Fetch.Retention
import SchemaPipeline.Proofs.Registry.Examination
import SchemaPipeline.Proofs.Registry.Rounds

/-!
# What the cache of earlier compilations changes

A document that an earlier compilation has left in the cache saves a request. It
also brings the resources that it declares, under names that nobody has asked
the network for. As long as the network serves each of them as the same document
under its own name, the cache holds nothing that could not have been fetched,
and a compilation comes to the same end with it as without it.

For this the end of one run is held against another run. The tables of both are
drawn from the schema and the network, so they agree where both have a document,
and what the one was told last it would also be told in the table put together
from both. Round by round the other run gets documents that the one has had, or
else it ends as well, and in the same way.
-/

namespace SchemaPipeline

open Registry Schema

namespace Members

theorem mem_insert {ms : Members} {key : String} {v : Value}
    {e : String × Value} (h : e ∈ insert ms key v) : e ∈ ms ∨ e = (key, v) := by
  induction ms with
  | nil => exact .inr (List.mem_singleton.1 h)
  | cons first rest ih =>
      obtain ⟨k, w⟩ := first
      rw [insert] at h
      split at h
      · next heq =>
          rw [eq_of_beq heq] at h
          rcases List.mem_cons.1 h with rfl | h
          · exact .inr rfl
          · exact .inl (List.mem_cons_of_mem _ h)
      · rcases List.mem_cons.1 h with rfl | h
        · exact .inl List.mem_cons_self
        · exact (ih h).imp_left (List.mem_cons_of_mem _)

/-- A member stays, unless its key gets another value. -/
theorem mem_insert_of_mem {ms : Members} {key : String} {v : Value}
    {e : String × Value} (h : e ∈ ms) (hsame : e.1 = key → e.2 = v) :
    e ∈ insert ms key v := by
  induction ms with
  | nil => cases h
  | cons first rest ih =>
      obtain ⟨k, w⟩ := first
      rw [insert]
      split
      · next heq =>
          rcases List.mem_cons.1 h with rfl | h
          · rw [← hsame (eq_of_beq heq)]
            exact List.mem_cons_self
          · exact List.mem_cons_of_mem _ h
      · rcases List.mem_cons.1 h with rfl | h
        · exact List.mem_cons_self
        · exact List.mem_cons_of_mem _ (ih h)

end Members

/-! ## Caches that were filled from a network -/

namespace Cache

variable {net : Network}

/-- The name is only told to whoever asks why there is no document. -/
theorem read_toOption (name name' : String) (reply : Reply) :
    (read name reply).toOption = (read name' reply).toOption := by
  cases reply with
  | failed reason => rfl
  | answered status body =>
      simp only [read]
      split
      · rfl
      · cases body with
        | none => rfl
        | some bytes => dsimp only; split <;> rfl

theorem Served.isRemote {name : String} {v : Value} (h : Served net name v) :
    Registry.isRemote name = true := by
  obtain ⟨url, -, -, -, hurl, hweb, -⟩ := h
  simp [Registry.isRemote, parse?_eq_some.2 hurl, hweb]

/-- A cache with nothing in it but what the network serves. -/
def Kept (net : Network) (cache : Cache) : Prop :=
  ∀ e ∈ cache.entries, Served net e.1 e.2

theorem Kept.empty (net : Network) : Kept net Documents.empty := nofun

theorem Kept.insert {cache : Cache} (h : Kept net cache) {name : String}
    {v : Value} (hv : Served net name v) :
    Kept net (Documents.insert cache name v) := by
  intro e he
  rcases Members.mem_insert he with he | rfl
  · exact h e he
  · exact hv

/-- Documents that are served do not take the place of others. -/
theorem Kept.subset_insert {cache : Cache} (h : Kept net cache) {name : String}
    {v : Value} (hv : Served net name v) :
    cache.entries ⊆ (Documents.insert cache name v).entries := fun e he =>
  Members.mem_insert_of_mem he fun hname => by
    subst hname
    exact (h e he).unique hv

/-! ## Rounds of fetching -/

/-- A request goes to the web address that its name is. -/
def Request.Proper (r : Request) : Prop :=
  Url.parse r.name = .ok r.url ∧ r.url.isWeb = true

theorem proper_of_startAll {cache : Cache} {names : List String}
    {requests : List Request} (h : cache.startAll names = .ok requests) :
    ∀ r ∈ requests, r.Proper := by
  induction names generalizing requests with
  | nil =>
      cases h
      nofun
  | cons name rest ih =>
      rw [startAll] at h
      cases hstart : cache.start name with
      | refused e =>
          rw [hstart] at h
          cases h
      | hit document =>
          rw [hstart] at h
          exact ih h
      | request first =>
          simp only [hstart] at h
          cases hothers : cache.startAll rest with
          | error e =>
              rw [hothers] at h
              cases h
          | ok others =>
              rw [hothers] at h
              cases h
              intro r hr
              rcases List.mem_cons.1 hr with rfl | hr
              · exact (start_request hstart).2.2
              · exact ih hothers r hr

variable (net) in
/-- Documents that are not there are requested under their names; else one of
them cannot be had. -/
theorem startAll_cases {cache : Cache} {names : List String}
    (hnames : ∀ name ∈ names, Reference.Normal name ∧ cache.find? name = none) :
    (∃ requests, cache.startAll names = .ok requests ∧
        requests.map Request.name = names) ∨
      ∃ e, cache.startAll names = .error e ∧
        ∃ name ∈ names, ∀ v, ¬ Served net name v := by
  induction names with
  | nil => exact .inl ⟨[], rfl, rfl⟩
  | cons name rest ih =>
      obtain ⟨hnormal, hnone⟩ := hnames name List.mem_cons_self
      have hrest := ih fun n hn => hnames n (List.mem_cons_of_mem _ hn)
      have hget : cache.get? name = none := by rwa [get?, hnormal]
      cases hstart : cache.start name with
      | hit document =>
          rw [start, hnormal, hget] at hstart
          simp only at hstart
          split at hstart
          · cases hstart
          · split at hstart <;> cases hstart
      | refused e =>
          refine .inr ⟨e, by rw [startAll, hstart], name, List.mem_cons_self,
            fun v hv => ?_⟩
          obtain ⟨url, -, -, -, hurl, hweb, -⟩ := hv
          rw [start, hnormal, hget] at hstart
          simp only [hurl, hweb, if_true] at hstart
          cases hstart
      | request r =>
          have hname : r.name = name := (start_request hstart).2.1.trans hnormal
          rcases hrest with ⟨requests, hok, hmap⟩ | ⟨e, herror, n, hn, hnot⟩
          · refine .inl ⟨r :: requests, by rw [startAll, hstart, hok]; rfl, ?_⟩
            rw [List.map_cons, hname, hmap]
          · exact .inr ⟨e, by rw [startAll, hstart, herror]; rfl, n,
              List.mem_cons_of_mem _ hn, hnot⟩

/-- Replies are kept until one cannot be read. -/
theorem finishAll_cases {cache cache' : Cache} {requests : List Request}
    {result : Except FetchError Unit} (hkept : Kept net cache)
    (hrequests : ∀ r ∈ requests, r.Proper)
    (h : finishAll net cache requests = (result, cache')) :
    Kept net cache' ∧ cache.entries ⊆ cache'.entries ∧
      ((result = .ok () ∧ ∀ r ∈ requests, ∃ v, (r.name, v) ∈ cache'.entries) ∨
        ∃ e, result = .error e ∧ ∃ r ∈ requests, ∀ v, ¬ Served net r.name v) := by
  induction requests generalizing cache with
  | nil =>
      cases h
      exact ⟨hkept, List.Subset.refl _, .inl ⟨rfl, nofun⟩⟩
  | cons r rest ih =>
      obtain ⟨hurl, hweb⟩ := hrequests r List.mem_cons_self
      have hrest := fun q hq => hrequests q (List.mem_cons_of_mem _ hq)
      rw [finishAll] at h
      cases hread : read r.name (net r.url) with
      | error e =>
          simp only [finish, hread] at h
          cases h
          refine ⟨hkept, List.Subset.refl _, .inr ⟨e, rfl, r,
            List.mem_cons_self, fun v hv => ?_⟩⟩
          rw [served_iff, document?_eq hurl hweb, hread] at hv
          cases hv
      | ok document =>
          simp only [finish, hread] at h
          have hserved : Served net r.name document := by
            rw [served_iff, document?_eq hurl hweb, hread]
            rfl
          obtain ⟨hkept', hsubset, hcases⟩ := ih (hkept.insert hserved) hrest h
          refine ⟨hkept', List.Subset.trans (hkept.subset_insert hserved) hsubset,
            ?_⟩
          rcases hcases with ⟨hok, hall⟩ | ⟨e, herror, q, hq, hnot⟩
          · refine .inl ⟨hok, fun q hq => ?_⟩
            rcases List.mem_cons.1 hq with rfl | hq
            · exact ⟨document, hsubset (Members.mem_of_find?
                (Documents.find?_insert_self cache _ document))⟩
            · exact hall q hq
          · exact .inr ⟨e, herror, q, List.mem_cons_of_mem _ hq, hnot⟩

theorem kept_of_fetchAll {cache cache' : Cache} {names : List String}
    {result : Except FetchError Unit} {requests : List Request}
    (hkept : Kept net cache)
    (h : cache.fetchAll net id names = (result, requests, cache')) :
    Kept net cache' := by
  rw [fetchAll] at h
  cases hstart : cache.startAll names with
  | error e =>
      rw [hstart] at h
      cases h
      exact hkept
  | ok sent =>
      simp only [hstart, id] at h
      cases h
      exact (finishAll_cases hkept (proper_of_startAll hstart) rfl).1

/-- Documents that are not there have all come in the end, or one of them is not
served. -/
theorem fetchAll_cases {cache cache' : Cache} {names : List String}
    {result : Except FetchError Unit} {requests : List Request}
    (hkept : Kept net cache)
    (hnames : ∀ name ∈ names, Reference.Normal name ∧ cache.find? name = none)
    (h : cache.fetchAll net id names = (result, requests, cache')) :
    (result = .ok () ∧ cache.entries ⊆ cache'.entries ∧
        ∀ name ∈ names, ∃ v, (name, v) ∈ cache'.entries) ∨
      ∃ e, result = .error e ∧ ∃ name ∈ names, ∀ v, ¬ Served net name v := by
  rw [fetchAll] at h
  rcases startAll_cases net hnames with
    ⟨sent, hstart, rfl⟩ | ⟨e, hstart, hlost⟩
  · simp only [hstart, id] at h
    cases h
    obtain ⟨-, hsubset, ⟨hok, hall⟩ | ⟨e, herror, r, hr, hnot⟩⟩ :=
      finishAll_cases hkept (proper_of_startAll hstart) rfl
    · exact .inl ⟨hok, hsubset, List.forall_mem_map.2 hall⟩
    · exact .inr ⟨e, herror, r.name, List.mem_map_of_mem hr, hnot⟩
  · simp only [hstart] at h
    cases h
    exact .inr ⟨e, rfl, hlost⟩

end Cache

/-! ## Tables that are drawn from a schema and a network -/

/-- A network on which every resource that a served document declares is served
as well, the same under its own name. -/
def Network.Coherent (net : Network) : Prop :=
  ∀ e, Cache.Served net e.1 e.2 → ∀ name v,
    Documents.offer name e = some v → Cache.Served net name v

namespace Network

/-- A network with some documents, and nothing else. -/
def serving (pages : List (String × Value)) : Network := fun url =>
  match pages.find? fun page => Url.parse? page.1 == some url with
  | some page => .answered 200 (some (Utf8.ofString (Json.compact page.2)))
  | none => .failed (sendingFailed url)

/-- On such a network nothing has to be looked at but its documents. -/
theorem coherent_serving {pages : List (String × Value)}
    (h : ∀ page ∈ pages, ∀ url ∈ Url.parse? page.1,
      ∀ v ∈ Cache.document? (serving pages) page.1,
      ∀ d ∈ Schema.declared url v.schemaTree,
        Cache.document? (serving pages) d.1 = some d.2) :
    (serving pages).Coherent := by
  intro e he name v hoffer
  rw [Documents.offer, Documents.contribution] at hoffer
  rcases List.mem_cons.1 (Members.mem_of_find? hoffer) with heq | hmem
  · cases heq
    exact he
  · obtain ⟨url, status, bytes, text, hurl, hweb, hnet, -⟩ := id he
    simp only [Cache.parse?_eq_some.2 hurl] at hmem
    -- The document comes from a page at the same address.
    cases hfind : pages.find? fun page => Url.parse? page.1 == some url with
    | none =>
        rw [serving, hfind] at hnet
        cases hnet
    | some page =>
        have hpage : Url.parse? page.1 = some url := by
          simpa using List.find?_some hfind
        have hsame : Cache.document? (serving pages) page.1 = some e.2 := by
          rw [← Cache.served_iff.1 he, Cache.document?_eq hurl hweb,
            Cache.document?_eq (Cache.parse?_eq_some.1 hpage) hweb]
          exact Cache.read_toOption page.1 e.1 (serving pages url)
        exact Cache.served_iff.2 (h page (List.mem_of_find?_eq_some hfind) url
          (Option.mem_def.2 hpage) e.2 (Option.mem_def.2 hsame) (name, v) hmem)

end Network

namespace Documents

/-- A table that holds what the schema holds, and for the rest nothing but what
the network serves. -/
structure Drawn (net : Network) (schema : Value) (table : Documents) : Prop where
  holds : Judge.Holds schema table
  served : ∀ name v, (own schema).find? name = none →
    table.find? name = some v → Cache.Served net name v

variable {net : Network} {schema : Value} {table other : Documents}

variable (schema) in
theorem drawn_known (hnet : net.Coherent) {cache : Cache}
    (h : Cache.Kept net cache) : Drawn net schema (known schema cache) where
  holds name v hv := by rw [find?_known, hv, Option.some_or]
  served name v hown hv := by
    rw [find?_known, hown, Option.none_or] at hv
    obtain ⟨e, he, hoffer⟩ := List.exists_of_findSome?_eq_some hv
    exact hnet e (h e he) name v hoffer

theorem Drawn.agree (h : Drawn net schema table) (h' : Drawn net schema other)
    {name : String} {v w : Value} (hv : table.find? name = some v)
    (hw : other.find? name = some w) : v = w := by
  cases hown : (own schema).find? name with
  | some u =>
      have hu := (h.holds name u hown).symm.trans hv
      rw [← Option.some.inj hu]
      exact Option.some.inj ((h'.holds name u hown).symm.trans hw)
  | none => exact (h.served name v hown hv).unique (h'.served name w hown hw)

theorem Drawn.enlarges (h : Drawn net schema table)
    (h' : Drawn net schema other)
    (hkept : ∀ name, table.find? name ≠ none → other.find? name ≠ none) :
    Enlarges table other where
  kept name v hv := by
    obtain ⟨w, hw⟩ := Option.ne_none_iff_exists'.1
      (hkept name (by rw [hv]; exact Option.some_ne_none v))
    rw [hw, h.agree h' hv hw]
  remote name hnone hcome := by
    obtain ⟨w, hw⟩ := Option.ne_none_iff_exists'.1 hcome
    refine (h'.served name w ?_ hw).isRemote
    cases hown : (own schema).find? name with
    | none => rfl
    | some u => cases (h.holds name u hown).symm.trans hnone

/-- The table put together from two. -/
def merge (table other : Documents) : Documents :=
  table.insertAllNew other.entries

theorem find?_merge (table other : Documents) (name : String) :
    (table.merge other).find? name =
      (table.find? name).or (other.find? name) :=
  find?_insertAllNew ..

theorem Drawn.merge (h : Drawn net schema table)
    (h' : Drawn net schema other) : Drawn net schema (table.merge other) where
  holds name v hv := by rw [find?_merge, h.holds name v hv, Option.some_or]
  served name v hown hv := by
    rw [find?_merge] at hv
    rcases Option.or_eq_some_iff.1 hv with hv | ⟨-, hv⟩
    · exact h.served name v hown hv
    · exact h'.served name v hown hv

theorem Drawn.enlarges_merge (h : Drawn net schema table)
    (h' : Drawn net schema other) : Enlarges table (table.merge other) :=
  h.enlarges (h.merge h') fun name hname => by
    rw [find?_merge]
    obtain ⟨v, hv⟩ := Option.ne_none_iff_exists'.1 hname
    rw [hv]
    exact Option.some_ne_none v

theorem Drawn.enlarges_merge_right (h : Drawn net schema table)
    (h' : Drawn net schema other) : Enlarges other (table.merge other) :=
  h'.enlarges (h.merge h') fun name hname => by
    rw [find?_merge]
    cases table.find? name with
    | none => exact hname
    | some v => exact Option.some_ne_none v

/-- A cached document is known. -/
theorem known_of_mem {cache : Cache} {e : String × Value}
    (h : e ∈ cache.entries) : (known schema cache).find? e.1 ≠ none := by
  have hoffer : (offer e.1 e).isSome = true := by
    rw [offer, contribution, Members.find?, if_pos (beq_self_eq_true _)]
    rfl
  rw [find?_known]
  cases (own schema).find? e.1 with
  | some v => exact Option.some_ne_none v
  | none =>
      rw [Option.none_or, ← Option.isSome_iff_ne_none,
        List.findSome?_isSome_iff]
      exact ⟨e, h, hoffer⟩

/-- What is known stays known when the cache grows. -/
theorem known_of_subset {cache cache' : Cache}
    (h : cache.entries ⊆ cache'.entries) {name : String}
    (hname : (known schema cache).find? name ≠ none) :
    (known schema cache').find? name ≠ none := by
  rw [find?_known] at hname ⊢
  cases hown : (own schema).find? name with
  | some v => exact Option.some_ne_none v
  | none =>
      rw [hown, Option.none_or, ← Option.isSome_iff_ne_none,
        List.findSome?_isSome_iff] at hname
      obtain ⟨e, he, hoffer⟩ := hname
      rw [Option.none_or, ← Option.isSome_iff_ne_none,
        List.findSome?_isSome_iff]
      exact ⟨e, h he, hoffer⟩

end Documents

/-! ## How a round goes -/

namespace Registry

variable {J : Judge} {net : Network} {schema : Value}

/-- All that is reported missing in a compilation is named in normal form. -/
def Tidy (J : Judge) (net : Network) (schema : Value) (p : Progress Settings) :
    Prop :=
  ∀ calls, ∀ uris ∈ reports J.compiler net id schema calls p,
    ∀ uri ∈ uris, Reference.Normal uri

/-- The cache has been filled from the network, and what was asked for is
there. -/
structure Supplied (net : Network) (p : Progress Settings) : Prop where
  kept : Cache.Kept net p.cache
  asked : ∀ name ∈ p.asked, ∃ v, (name, v) ∈ p.cache.entries

theorem Tidy.head {p : Progress Settings} (h : Tidy J net schema p)
    {names : List String}
    (hneeds : J.examine p.state schema (Documents.known schema p.cache) =
      .needs names) : ∀ name ∈ names, Reference.Normal name := by
  refine h 1 names ?_
  rw [reports, J.attempt_eq, hneeds]
  exact List.mem_cons_self

theorem Tidy.tail {p q : Progress Settings} (h : Tidy J net schema p)
    {names : List String}
    (hneeds : J.examine p.state schema (Documents.known schema p.cache) =
      .needs names)
    (hfetch : fetchMissing net id names p = (.ok (), q)) :
    Tidy J net schema q := by
  intro calls uris huris
  refine h (calls + 1) uris ?_
  rw [reports, J.attempt_eq, hneeds]
  simp only [hfetch]
  exact List.mem_cons_of_mem _ huris

/-- A run that has ended reports nothing more. -/
theorem reports_of_ended {calls : Nat} {p : Progress Settings}
    (h : (compileWithin J.compiler net id schema calls p).1.isSome = true)
    (more : Nat) : reports J.compiler net id schema more p ⊆
      reports J.compiler net id schema calls p := by
  induction calls generalizing p more with
  | zero => cases h
  | succ calls ih =>
      cases more with
      | zero => exact List.nil_subset _
      | succ more =>
          rw [compileWithin] at h
          rw [reports, reports]
          split
          · next hattempt =>
              rw [hattempt] at h
              refine List.cons_subset_cons _ ?_
              split
              · next hfetch =>
                  simp only [hfetch] at h
                  exact ih h more
              · exact List.nil_subset _
          · exact List.nil_subset _

theorem tidy_of_ended (calls : Nat) {p : Progress Settings}
    (h : (compileWithin J.compiler net id schema calls p).1.isSome = true)
    (hnormal : ∀ uris ∈ reports J.compiler net id schema calls p,
      ∀ uri ∈ uris, Reference.normalize uri = uri) : Tidy J net schema p :=
  fun more uris huris => hnormal uris (reports_of_ended h more huris)

theorem askFor_of_fresh {asked names : List String} (hnodup : names.Nodup)
    (hfresh : ∀ name ∈ names, name ∉ asked) :
    askFor asked names = .ok (asked ++ names) := by
  induction names generalizing asked with
  | nil => rw [askFor, List.append_nil]
  | cons name rest ih =>
      rw [List.nodup_cons] at hnodup
      have hnew : asked.contains name = false := by
        simpa using hfresh name List.mem_cons_self
      rw [askFor, hnew, ih hnodup.2, List.append_assoc]
      · rfl
      · intro n hn hmem
        rcases List.mem_append.1 hmem with hmem | hmem
        · exact hfresh n (List.mem_cons_of_mem _ hn) hmem
        · rw [List.mem_singleton.1 hmem] at hn
          exact hnodup.1 hn

/-- What is not known is not in the cache either. -/
theorem absent_of_unknown {cache : Cache} {name : String}
    (h : (Documents.known schema cache).find? name = none) :
    Documents.find? cache name = none := by
  cases hfind : Documents.find? cache name with
  | none => rfl
  | some v =>
      exact absurd h (Documents.known_of_mem (Members.mem_of_find? hfind))

/-- Nothing that is missing has been asked for. -/
theorem Supplied.fresh {p : Progress Settings} (hp : Supplied net p)
    {name : String}
    (h : (Documents.known schema p.cache).find? name = none) :
    name ∉ p.asked := fun hasked => by
  obtain ⟨v, hv⟩ := hp.asked name hasked
  exact Documents.known_of_mem hv h

/-- A round brings all the documents that were missing, or one of them is not
served. No document is asked for twice. -/
theorem fetchMissing_cases {p : Progress Settings} (hp : Supplied net p)
    {names : List String} (hnodup : names.Nodup)
    (hnames : ∀ name ∈ names, Reference.Normal name ∧
      (Documents.known schema p.cache).find? name = none) :
    (∃ q, fetchMissing net id names p = (.ok (), q) ∧ Supplied net q ∧
        q.state = p.state ∧ p.cache.entries ⊆ q.cache.entries ∧
        ∀ name ∈ names, ∃ v, (name, v) ∈ q.cache.entries) ∨
      ∃ e q, fetchMissing net id names p = (.error e, q) ∧
        ∃ name ∈ names, ∀ v, ¬ Cache.Served net name v := by
  have hask : askFor p.asked names = .ok (p.asked ++ names) :=
    askFor_of_fresh hnodup fun name hname => hp.fresh (hnames name hname).2
  have habsent : ∀ name ∈ names,
      Reference.Normal name ∧ Documents.find? p.cache name = none :=
    fun name hname => (hnames name hname).imp_right absent_of_unknown
  cases hfetch : p.cache.fetchAll net id names with
  | mk result rest =>
      obtain ⟨requests, cache⟩ := rest
      rcases Cache.fetchAll_cases hp.kept habsent hfetch with
        ⟨rfl, hsubset, hcame⟩ | ⟨e, rfl, hlost⟩
      · refine .inl ⟨⟨p.state, cache, p.asked ++ names,
          p.requests ++ requests⟩, ?_, ⟨?_, ?_⟩, rfl, hsubset, hcame⟩
        · simp only [fetchMissing, hask, hfetch]
        · exact Cache.kept_of_fetchAll hp.kept hfetch
        · intro name hname
          rcases List.mem_append.1 hname with hname | hname
          · exact (hp.asked name hname).imp fun _ hv => hsubset hv
          · exact hcame name hname
      · refine .inr ⟨.fetch e, ⟨p.state, cache, p.asked ++ names,
          p.requests ++ requests⟩, ?_, hlost⟩
        simp only [fetchMissing, hask, hfetch]

/-- A round leaves nothing in the cache but what the network serves, and the
state as it was. -/
theorem kept_of_fetchMissing {p q : Progress Settings} {names : List String}
    {result : Except CompileError Unit} (hkept : Cache.Kept net p.cache)
    (h : fetchMissing net id names p = (result, q)) :
    Cache.Kept net q.cache ∧ q.state = p.state := by
  rw [fetchMissing] at h
  cases hask : askFor p.asked names with
  | error e =>
      rw [hask] at h
      cases h
      exact ⟨hkept, rfl⟩
  | ok asked =>
      cases hfetch : p.cache.fetchAll net id names with
      | mk outcome rest =>
          have hkept' := Cache.kept_of_fetchAll hkept hfetch
          simp only [hask, hfetch] at h
          cases outcome <;> cases h <;> exact ⟨hkept', rfl⟩

section

variable {p q : Progress Settings} {names : List String} (calls : Nat)

theorem compileWithin_of_done {c : DocumentContext J}
    (h : J.examine p.state schema (Documents.known schema p.cache) = .done c) :
    compileWithin J.compiler net id schema (calls + 1) p = (some (.ok c), p) := by
  rw [compileWithin, J.attempt_eq, h]

theorem compileWithin_of_failed {e : CompileError}
    (h : J.examine p.state schema (Documents.known schema p.cache) =
      .failed e) :
    compileWithin J.compiler net id schema (calls + 1) p =
      (some (.error e), p) := by
  rw [compileWithin, J.attempt_eq, h]

theorem compileWithin_of_lost {e : CompileError}
    (h : J.examine p.state schema (Documents.known schema p.cache) =
      .needs names)
    (hfetch : fetchMissing net id names p = (.error e, q)) :
    compileWithin J.compiler net id schema (calls + 1) p =
      (some (.error e), q) := by
  rw [compileWithin, J.attempt_eq, h]
  simp only [hfetch]

/-- After a round that has brought what was missing the run goes on. -/
theorem compileWithin_of_fetched
    (h : J.examine p.state schema (Documents.known schema p.cache) =
      .needs names)
    (hfetch : fetchMissing net id names p = (.ok (), q)) :
    compileWithin J.compiler net id schema (calls + 1) p =
      compileWithin J.compiler net id schema calls q := by
  rw [compileWithin, J.attempt_eq, h]
  simp only [hfetch]

end

theorem kept_of_compileWithin {calls : Nat} {p q : Progress Settings}
    {result : Option (Except CompileError (DocumentContext J))}
    (hkept : Cache.Kept net p.cache)
    (h : compileWithin J.compiler net id schema calls p = (result, q)) :
    Cache.Kept net q.cache ∧ q.state = p.state := by
  induction calls generalizing p with
  | zero =>
      cases h
      exact ⟨hkept, rfl⟩
  | succ calls ih =>
      cases hexamine : J.examine p.state schema
          (Documents.known schema p.cache) with
      | done c =>
          rw [compileWithin_of_done calls hexamine] at h
          cases h
          exact ⟨hkept, rfl⟩
      | failed e =>
          rw [compileWithin_of_failed calls hexamine] at h
          cases h
          exact ⟨hkept, rfl⟩
      | needs names =>
          cases hfetch : fetchMissing net id names p with
          | mk outcome p' =>
              obtain ⟨hkept', hstate⟩ := kept_of_fetchMissing hkept hfetch
              cases outcome with
              | error e =>
                  rw [compileWithin_of_lost calls hexamine hfetch] at h
                  cases h
                  exact ⟨hkept', hstate⟩
              | ok u =>
                  rw [compileWithin_of_fetched calls hexamine hfetch] at h
                  rw [← hstate]
                  exact ih hkept' h

/-! ## One run beside another -/

section

variable (J net schema) (settings : Settings)

/-- A table over which a compilation ends, with success or not. -/
inductive Terminal (table : Documents) : Bool → Prop where
  | done {c : DocumentContext J}
    (h : J.examine settings schema table = .done c) : Terminal table true
  | failed {e : CompileError}
    (h : J.examine settings schema table = .failed e) : Terminal table false
  | lost {names : List String}
    (h : J.examine settings schema table = .needs names) {name : String}
    (hname : name ∈ names) (hlost : ∀ v, ¬ Cache.Served net name v) :
    Terminal table false

end

variable {settings : Settings} {table larger : Documents}

theorem Terminal.unique {b b' : Bool} (h : Terminal J net schema settings table b)
    (h' : Terminal J net schema settings table b') : b = b' := by
  cases h with
  | done h =>
      cases h' with
      | done => rfl
      | failed h' | lost h' => cases h.symm.trans h'
  | failed h | lost h =>
      cases h' with
      | done h' => cases h.symm.trans h'
      | failed | lost => rfl

variable (hJ : J.Reads) (hnet : net.Coherent) (hsighted : Sighted schema)

include hJ hsighted

/-- What has ended has ended in the same way over a larger table. -/
theorem Terminal.enlarges {b : Bool}
    (h : Terminal J net schema settings table b)
    (htable : Documents.Drawn net schema table)
    (hlarger : Documents.Drawn net schema larger)
    (henlarges : Enlarges table larger) :
    Terminal J net schema settings larger b := by
  cases h with
  | done h =>
      obtain ⟨c, hc⟩ :=
        Judge.examine_done hJ hsighted htable.holds henlarges h
      exact .done hc
  | failed h =>
      obtain ⟨e, he⟩ :=
        Judge.examine_failed hJ hsighted htable.holds henlarges h
      exact .failed he
  | @lost names h name hname hlost =>
      obtain ⟨-, habsent⟩ :=
        Judge.absent_of_needs hJ hsighted htable.holds h
      have hown : (Documents.own schema).find? name = none := by
        cases hown : (Documents.own schema).find? name with
        | none => rfl
        | some v =>
            cases (htable.holds name v hown).symm.trans (habsent name hname)
      have hnone : larger.find? name = none := by
        cases hfind : larger.find? name with
        | none => rfl
        | some v => exact absurd (hlarger.served name v hown hfind) (hlost v)
      rcases Judge.examine_needs_mem hJ hsighted htable.holds henlarges h hname
        hnone with ⟨e, he⟩ | ⟨names', hnames', hmem⟩
      · exact .failed he
      · exact .lost hnames' hmem hlost

/-- Two runs with the same settings that have ended have ended in the same
way. -/
theorem Terminal.agree {b b' : Bool}
    (h : Terminal J net schema settings table b)
    (h' : Terminal J net schema settings larger b')
    (htable : Documents.Drawn net schema table)
    (hlarger : Documents.Drawn net schema larger) : b' = b :=
  have hmerge := htable.merge hlarger
  (h'.enlarges hJ hsighted hlarger hmerge
    (htable.enlarges_merge_right hlarger)).unique
    (h.enlarges hJ hsighted htable hmerge (htable.enlarges_merge hlarger))

include hnet

/-- What a round needs is named in normal form, once, and is not there. -/
theorem ready_of_needs {p : Progress Settings} (hp : Supplied net p)
    (htidy : Tidy J net schema p) {names : List String}
    (h : J.examine p.state schema (Documents.known schema p.cache) =
      .needs names) :
    names.Nodup ∧ ∀ name ∈ names, Reference.Normal name ∧
      (Documents.known schema p.cache).find? name = none := by
  have hdrawn := Documents.drawn_known schema hnet hp.kept
  obtain ⟨hnodup, habsent⟩ := Judge.absent_of_needs hJ hsighted hdrawn.holds h
  exact ⟨hnodup, fun name hname => ⟨htidy.head h name hname,
    habsent name hname⟩⟩

/-- Where a compilation ends. -/
theorem terminal_of_compileWithin {calls : Nat} {p q : Progress Settings}
    (hp : Supplied net p) (htidy : Tidy J net schema p)
    {outcome : Except CompileError (DocumentContext J)}
    (h : compileWithin J.compiler net id schema calls p = (some outcome, q)) :
    ∃ cache, Cache.Kept net cache ∧
      Terminal J net schema p.state (Documents.known schema cache)
        outcome.isOk := by
  induction calls generalizing p with
  | zero => cases h
  | succ calls ih =>
      cases hexamine : J.examine p.state schema
          (Documents.known schema p.cache) with
      | done c =>
          rw [compileWithin_of_done calls hexamine] at h
          cases h
          exact ⟨_, hp.kept, .done hexamine⟩
      | failed e =>
          rw [compileWithin_of_failed calls hexamine] at h
          cases h
          exact ⟨_, hp.kept, .failed hexamine⟩
      | needs names =>
          obtain ⟨hnodup, hnames⟩ :=
            ready_of_needs hJ hnet hsighted hp htidy hexamine
          rcases fetchMissing_cases hp hnodup hnames with
            ⟨p', hfetch, hp', hstate, -, -⟩ |
            ⟨e, p', hfetch, name, hname, hlost⟩
          · rw [compileWithin_of_fetched calls hexamine hfetch] at h
            rw [← hstate]
            exact ih hp' (htidy.tail hexamine hfetch) h
          · rw [compileWithin_of_lost calls hexamine hfetch] at h
            cases h
            exact ⟨p.cache, hp.kept, .lost hexamine hname hlost⟩

/-- The documents of a table that are not known yet. -/
def outstanding (schema : Value) (table : Documents) (cache : Cache) :
    Finset String :=
  {name ∈ (table.entries.map Prod.fst).toFinset |
    (Documents.known schema cache).find? name = none}

omit hJ hnet hsighted in
theorem outstanding_ssubset {cache cache' : Cache}
    (hsubset : cache.entries ⊆ cache'.entries) {name : String}
    (hname : table.find? name ≠ none)
    (hbefore : (Documents.known schema cache).find? name = none)
    (hafter : (Documents.known schema cache').find? name ≠ none) :
    outstanding schema table cache' ⊂ outstanding schema table cache := by
  rw [Finset.ssubset_iff_of_subset]
  · obtain ⟨v, hv⟩ := Option.ne_none_iff_exists'.1 hname
    have hmem : name ∈ table.entries.map Prod.fst :=
      List.mem_map_of_mem (f := Prod.fst) (Members.mem_of_find? hv)
    refine ⟨name, ?_, ?_⟩
    · simp [outstanding, List.mem_toFinset.2 hmem, hbefore]
    · simp [outstanding, hafter]
  · exact Finset.monotone_filter_right _ fun n _ =>
      not_imp_not.1 (Documents.known_of_subset hsubset)

/-- If names are still missing with the documents of a run that has ended, that
run ended because one of them is not served. -/
theorem Terminal.lost_of_needs {p : Progress Settings} (hp : Supplied net p)
    {b : Bool} (hterminal : Terminal J net schema p.state table b)
    (htable : Documents.Drawn net schema table) {names : List String}
    (hneeds : J.examine p.state schema (Documents.known schema p.cache) =
      .needs names)
    (hmissing : ∀ name ∈ names, table.find? name = none ∧
      (Documents.known schema p.cache).find? name = none) :
    ∃ name ∈ names, ∀ v, ¬ Cache.Served net name v := by
  have hknown := Documents.drawn_known schema hnet hp.kept
  have hend := hterminal.enlarges hJ hsighted htable (htable.merge hknown)
    (htable.enlarges_merge hknown)
  have hmerged := Judge.examine_needs hJ hsighted hknown.holds
    (htable.enlarges_merge_right hknown) hneeds fun name hname => by
      rw [Documents.find?_merge, (hmissing name hname).1,
        (hmissing name hname).2, Option.or_none]
  cases hend with
  | done h | failed h => cases hmerged.symm.trans h
  | lost h hname hlost =>
      cases hmerged.symm.trans h
      exact ⟨_, hname, hlost⟩

/-- A run comes to the end that another one with the same settings has come to.
Every round brings a document that the other run has had, unless it is the
last. -/
theorem comes_of_terminal {cache : Cache} (hkept : Cache.Kept net cache)
    {b : Bool} {p : Progress Settings}
    (hterminal : Terminal J net schema p.state (Documents.known schema cache) b)
    (hp : Supplied net p) (htidy : Tidy J net schema p) :
    ∃ calls outcome q, compileWithin J.compiler net id schema calls p =
      (some outcome, q) ∧ outcome.isOk = b := by
  have htable := Documents.drawn_known schema hnet hkept
  generalize Documents.known schema cache = table at hterminal htable
  induction houtstanding : outstanding schema table p.cache
    using Finset.strongInduction generalizing p with | H _ ih => ?_
  subst houtstanding
  have hknown := Documents.drawn_known schema hnet hp.kept
  cases hexamine : J.examine p.state schema
      (Documents.known schema p.cache) with
  | done c =>
      exact ⟨1, .ok c, p, compileWithin_of_done 0 hexamine,
        hterminal.agree hJ hsighted (.done hexamine) htable hknown⟩
  | failed e =>
      exact ⟨1, .error e, p, compileWithin_of_failed 0 hexamine,
        hterminal.agree hJ hsighted (.failed hexamine) htable hknown⟩
  | needs names =>
      obtain ⟨hnodup, hnames⟩ :=
        ready_of_needs hJ hnet hsighted hp htidy hexamine
      rcases fetchMissing_cases hp hnodup hnames with
        ⟨q, hfetch, hq, hstate, hsubset, hcame⟩ |
        ⟨e, q, hfetch, name, hname, hlost⟩
      · by_cases hhad : ∃ name ∈ names, table.find? name ≠ none
        · obtain ⟨name, hname, hfind⟩ := hhad
          obtain ⟨v, hv⟩ := hcame name hname
          have hfewer := outstanding_ssubset hsubset hfind
            (hnames name hname).2 (Documents.known_of_mem hv)
          rw [← hstate] at hterminal
          obtain ⟨calls, outcome, q', hrun, hok⟩ :=
            ih _ hfewer hq (htidy.tail hexamine hfetch) hterminal rfl
          refine ⟨calls + 1, outcome, q', ?_, hok⟩
          rw [compileWithin_of_fetched calls hexamine hfetch, hrun]
        · -- The other run lost one of these names, which have just come.
          push Not at hhad
          obtain ⟨name, hname, hlost⟩ := hterminal.lost_of_needs hJ hnet
            hsighted hp htable hexamine fun name hname =>
              ⟨hhad name hname, (hnames name hname).2⟩
          obtain ⟨v, hv⟩ := hcame name hname
          exact absurd (hq.kept _ hv) (hlost v)
      · exact ⟨1, .error e, q, compileWithin_of_lost 0 hexamine hfetch,
          hterminal.agree hJ hsighted (.lost hexamine hname hlost) htable
            hknown⟩

/-! ## Compilations one after the other -/

omit hJ hnet hsighted

variable {r : Registry Settings (DocumentContext J)}

/-- What compilations make of a registry, each with at most so many calls of
the compiler. -/
def afterAll (net : Network) (r : Registry Settings (DocumentContext J))
    (earlier : List (Nat × Value)) : Registry Settings (DocumentContext J) :=
  earlier.foldl (fun r e => (r.compile net e.1 e.2).registry) r

/-- The compilation of a schema ends, with success or not. -/
def Comes (net : Network) (r : Registry Settings (DocumentContext J))
    (schema : Value) (success : Bool) : Prop :=
  ∃ calls outcome, (r.compile net calls schema).result = some outcome ∧
    outcome.isOk = success

/-- How a compilation in a registry begins. -/
abbrev beginning (r : Registry Settings (DocumentContext J)) :
    Progress Settings :=
  Progress.start r.state r.cache

theorem supplied_beginning (h : Cache.Kept net r.cache) :
    Supplied net r.beginning where
  kept := h
  asked name hname := by cases hname

theorem comes_iff (hcompiler : r.compiler = J.compiler) {success : Bool} :
    Comes net r schema success ↔ ∃ calls outcome q,
      compileWithin J.compiler net id schema calls r.beginning =
        (some outcome, q) ∧ outcome.isOk = success := by
  constructor
  · rintro ⟨calls, outcome, hresult, rfl⟩
    rw [compile, hcompiler] at hresult
    obtain ⟨found, hfound, rfl⟩ := Option.map_eq_some_iff.1 hresult
    refine ⟨calls, found, _, Prod.ext hfound rfl, ?_⟩
    cases found <;> rfl
  · rintro ⟨calls, outcome, q, hrun, rfl⟩
    refine ⟨calls, outcome.map (⟨schema, ·⟩), ?_, ?_⟩
    · rw [compile, hcompiler]
      change Option.map _ (compileWithin J.compiler net id schema calls
        r.beginning).1 = _
      rw [hrun]
      rfl
    · cases outcome <;> rfl

theorem comes_of_result (calls : Nat) {success : Bool}
    (h : (r.compile net calls schema).result.map Except.isOk = some success) :
    Comes net r schema success := by
  obtain ⟨outcome, hresult, hok⟩ := Option.map_eq_some_iff.1 h
  exact ⟨calls, outcome, hresult, hok⟩

theorem compileWithin_add {calls : Nat} {p q : Progress Settings}
    {outcome : Except CompileError (DocumentContext J)}
    (h : compileWithin J.compiler net id schema calls p = (some outcome, q))
    (more : Nat) :
    compileWithin J.compiler net id schema (calls + more) p =
      (some outcome, q) := by
  induction calls generalizing p with
  | zero => cases h
  | succ calls ih =>
      rw [Nat.succ_add]
      rw [compileWithin] at h ⊢
      split at h
      · exact h
      · exact h
      · split at h
        · exact ih h
        · exact h

/-- A compilation comes to one end. -/
theorem Comes.unique (hcompiler : r.compiler = J.compiler)
    {success success' : Bool} (h : Comes net r schema success)
    (h' : Comes net r schema success') : success = success' := by
  obtain ⟨calls, outcome, q, hrun, rfl⟩ := (comes_iff hcompiler).1 h
  obtain ⟨calls', outcome', q', hrun', rfl⟩ := (comes_iff hcompiler).1 h'
  have hsame := compileWithin_add hrun calls'
  rw [Nat.add_comm, compileWithin_add hrun' calls] at hsame
  cases hsame
  rfl

theorem kept_of_compile (hcompiler : r.compiler = J.compiler)
    (hkept : Cache.Kept net r.cache) (calls : Nat) (schema : Value) :
    Cache.Kept net (r.compile net calls schema).registry.cache ∧
      (r.compile net calls schema).registry.state = r.state := by
  have hrun : Cache.Kept net (compileWithin J.compiler net id schema calls
        r.beginning).2.cache ∧
      (compileWithin J.compiler net id schema calls r.beginning).2.state =
        r.state :=
    kept_of_compileWithin hkept rfl
  rwa [← hcompiler] at hrun

theorem kept_of_afterAll (hcompiler : r.compiler = J.compiler)
    (hkept : Cache.Kept net r.cache) (earlier : List (Nat × Value)) :
    Cache.Kept net (afterAll net r earlier).cache ∧
      (afterAll net r earlier).state = r.state ∧
      (afterAll net r earlier).compiler = J.compiler := by
  induction earlier generalizing r with
  | nil => exact ⟨hkept, rfl, hcompiler⟩
  | cons e rest ih =>
      obtain ⟨hkept', hstate⟩ := kept_of_compile hcompiler hkept e.1 e.2
      rw [← hstate]
      exact ih hcompiler hkept'

include hJ hnet hsighted in
/-- A run that begins with what the network serves comes to an end if another
one with the same settings does, and to the same one. -/
theorem comes_of_comes {r r' : Registry Settings (DocumentContext J)}
    (hcompiler : r.compiler = J.compiler) (hcompiler' : r'.compiler = J.compiler)
    (hstate : r'.state = r.state) (hkept : Cache.Kept net r.cache)
    (hkept' : Cache.Kept net r'.cache) (htidy : Tidy J net schema r.beginning)
    (htidy' : Tidy J net schema r'.beginning) {success : Bool}
    (h : Comes net r schema success) : Comes net r' schema success := by
  obtain ⟨calls, outcome, q, hrun, rfl⟩ := (comes_iff hcompiler).1 h
  obtain ⟨cache, hcache, hterminal⟩ := terminal_of_compileWithin hJ hnet
    hsighted (supplied_beginning hkept) htidy hrun
  refine (comes_iff hcompiler').2 (comes_of_terminal hJ hnet hsighted hcache ?_
    (supplied_beginning hkept') htidy')
  rw [show r'.beginning.state = r.beginning.state from hstate]
  exact hterminal

/-- The documents that earlier compilations have cached do not change how the
compilation of a schema ends, if every resource that a served document declares
is served the same under its own name. -/
theorem comes_iff_alone (hJ : J.Reads) (hnet : net.Coherent)
    (hcompiler : r.compiler = J.compiler) (hempty : r.cache = .empty)
    (earlier : List (Nat × Value)) (hsighted : Sighted schema)
    (halone : Tidy J net schema r.beginning)
    (hlast : Tidy J net schema (afterAll net r earlier).beginning)
    (success : Bool) :
    Comes net (afterAll net r earlier) schema success ↔
      Comes net r schema success := by
  have hkept : Cache.Kept net r.cache := by
    rw [hempty]
    exact .empty net
  obtain ⟨hkept', hstate, hcompiler'⟩ :=
    kept_of_afterAll hcompiler hkept earlier
  exact ⟨comes_of_comes hJ hnet hsighted hcompiler' hcompiler hstate.symm hkept'
    hkept hlast halone, comes_of_comes hJ hnet hsighted hcompiler hcompiler'
    hstate hkept hkept' halone hlast⟩

/-- A registry over the standard judge without metaschemas. -/
def unread : Registry Settings (DocumentContext Standard.bare) :=
  .new .default Standard.bare.compiler (Settings.ofConfig .default)

/-- A schema that refers to another document. -/
def pointing (reference : String) : Value :=
  .object [("$ref", .string reference)]

/-- A document that holds another one, which is served under its own name. -/
def bundled : List (String × Value) :=
  let inner := .object [("$id", .string "y"), ("type", .string "null")]
  [("http://[::]/x", .object [("not", inner)]), ("http://[::]/y", inner)]

theorem sighted_pointing : Sighted (pointing "http://[::]/y") :=
  sighted_of_addressed ⟨by decide +kernel, by decide +kernel, by decide +kernel⟩
    (.of_tableBase? ⟨by decide +kernel, by decide +kernel, by decide +kernel⟩
      (by decide +kernel))

theorem comes_iff_alone_bundled :
    Comes (.serving bundled)
        (afterAll (.serving bundled) unread [(2, pointing "http://[::]/x")])
        (pointing "http://[::]/y") true ↔
      Comes (.serving bundled) unread (pointing "http://[::]/y") true :=
  comes_iff_alone Standard.bare_reads
    (Network.coherent_serving (by decide +kernel)) rfl rfl _ sighted_pointing
    (tidy_of_ended 2 (by decide +kernel) (by decide +kernel))
    (tidy_of_ended 2 (by decide +kernel) (by decide +kernel)) true

/-- A document that holds another one, in place of the one which is served under
that name. -/
def shadowing : List (String × Value) :=
  [("http://[::]/x", .object [("not", .object [("$id", .string "y")])]),
    ("http://[::]/y", .object [("not", .bool true)])]

/-- What an earlier document holds is found in place of the document of that
name. -/
theorem exists_shadowed :
    ¬ ∀ (J : Judge) (net : Network)
        (r : Registry Settings (DocumentContext J)), J.Reads →
      r.compiler = J.compiler → r.cache = .empty →
      ∀ (earlier : List (Nat × Value)) (schema : Value) (success : Bool),
        Comes net (afterAll net r earlier) schema success →
          Comes net r schema success := by
  intro h
  have hafter : Comes (.serving shadowing) (afterAll (.serving shadowing) unread
      [(2, pointing "http://[::]/x")]) (pointing "http://[::]/y#/not") false :=
    comes_of_result 2 (by decide +kernel)
  have halone : Comes (.serving shadowing) unread
      (pointing "http://[::]/y#/not") true :=
    comes_of_result 2 (by decide +kernel)
  cases (h _ _ _ Standard.bare_reads rfl rfl _ _ _ hafter).unique rfl halone

end Registry

end SchemaPipeline
