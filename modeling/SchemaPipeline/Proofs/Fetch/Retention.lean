import SchemaPipeline.Fetch.Cache

/-!
# What a cache keeps and what it gains

A fetch looks a name up, and at most one request later the cache has one more
document: a reply with a status below 300 and a JSON body, under the name that
was asked for. `find?_finish` says so of a single reply, whatever has happened
to the cache since the request was sent.

A name that is found is not asked for. The look-up normalizes the name once
more, so this is a statement about names that are their own normal form; not
every normal form is one.
-/

namespace SchemaPipeline

namespace Reference

/-- A name that is its own normal form. -/
def Normal (name : String) : Prop := normalize name = name

end Reference

namespace Cache

/-- A network serves a document under a name: the name is a web address, and
the answer there has a status below 300 and the document as its body. -/
def Served (net : Network) (name : String) (document : Value) : Prop :=
  ∃ url status bytes text, Url.parse name = .ok url ∧ url.isWeb = true ∧
    net url = .answered status (some bytes) ∧ status < 300 ∧
    Utf8.decode? bytes = some text ∧
    Json.parse (String.ofList text) = some document

theorem start_of_find? {c : Cache} {uri : String} {document : Value}
    (h : c.get? (Reference.normalize uri) = some document) :
    c.start uri = .hit document := by
  simp only [start, h]

/-- A document under a normal name is found again. -/
theorem start_of_get? {c : Cache} {uri : String} {document : Value}
    (hnormal : Reference.Normal (Reference.normalize uri))
    (h : c.get? uri = some document) : c.start uri = .hit document := by
  refine start_of_find? ?_
  rwa [get?, hnormal]

theorem start_request {c : Cache} {uri : String} {r : Request}
    (h : c.start uri = .request r) :
    c.get? (Reference.normalize uri) = none ∧
      r.name = Reference.normalize uri ∧ Url.parse r.name = .ok r.url ∧
      r.url.isWeb = true := by
  simp only [start] at h
  split at h
  · cases h
  · next hnone =>
      split at h
      · cases h
      · next url hurl =>
          split at h
          · next hweb =>
              cases h
              exact ⟨hnone, rfl, hurl, hweb⟩
          · cases h

theorem read_ok {name : String} {reply : Reply} {document : Value}
    (h : read name reply = .ok document) :
    ∃ status bytes text, reply = .answered status (some bytes) ∧
      status < 300 ∧ Utf8.decode? bytes = some text ∧
      Json.parse (String.ofList text) = some document := by
  cases reply with
  | failed reason => cases h
  | answered status body =>
      simp only [read] at h
      split at h
      · cases h
      · next hstatus =>
          cases body with
          | none => cases h
          | some bytes =>
              simp only at h
              split at h
              · next found hfound =>
                  cases h
                  obtain ⟨text, htext, hparse⟩ := Option.bind_eq_some_iff.1 hfound
                  exact ⟨status, bytes, text, rfl, by omega, htext, hparse⟩
              · cases h

section

variable {net : Network}

/-- The document that a network has under a name. -/
def document? (net : Network) (name : String) : Option Value :=
  match Url.parse? name with
  | some url =>
    if url.isWeb then (read name (net url)).toOption else none
  | none => none

theorem parse?_eq_some {name : String} {url : Url} :
    Url.parse? name = some url ↔ Url.parse name = .ok url := by
  rw [Url.parse?]
  cases Url.parse name with
  | error e => exact ⟨nofun, nofun⟩
  | ok found =>
      exact ⟨fun h => congrArg Except.ok (Option.some.inj h),
        fun h => congrArg some (Except.ok.inj h)⟩

theorem document?_eq {name : String} {url : Url}
    (hurl : Url.parse name = .ok url) (hweb : url.isWeb = true) :
    document? net name = (read name (net url)).toOption := by
  simp only [document?, parse?_eq_some.2 hurl, hweb, if_true]

theorem served_iff {name : String} {v : Value} :
    Served net name v ↔ document? net name = some v := by
  constructor
  · rintro ⟨url, status, bytes, text, hurl, hweb, hnet, hstatus, htext, hparse⟩
    rw [document?_eq hurl hweb, hnet, read, if_neg (by omega)]
    simp only [htext, Option.bind_some, hparse]
    rfl
  · intro h
    unfold document? at h
    split at h
    · next url hurl =>
        split at h
        · next hweb =>
            cases hread : read name (net url) with
            | error e =>
                rw [hread] at h
                cases h
            | ok document =>
                rw [hread] at h
                cases h
                obtain ⟨status, bytes, text, hreply, hrest⟩ := read_ok hread
                exact ⟨url, status, bytes, text, parse?_eq_some.1 hurl, hweb,
                  hreply, hrest⟩
        · cases h
    · cases h

theorem Served.unique {name : String} {v w : Value} (hv : Served net name v)
    (hw : Served net name w) : v = w :=
  Option.some.inj ((served_iff.1 hv).symm.trans (served_iff.1 hw))

end

/-- A reply that can be read is kept under the name that was asked for; any
other leaves the cache as it was. -/
theorem finish_cases (c : Cache) (r : Request) (reply : Reply) :
    (∃ document, read r.name reply = .ok document ∧
        c.finish r reply = (.ok document, Documents.insert c r.name document)) ∨
      ∃ e, c.finish r reply = (.error e, c) := by
  unfold finish
  cases hread : read r.name reply with
  | ok document => exact .inl ⟨document, rfl, rfl⟩
  | error e => exact .inr ⟨e, rfl⟩

/-- After a reply a name has the document that it had, or the one that the
network serves under it. -/
theorem find?_finish {c c' : Cache} {r : Request} {net : Network}
    {result : Except FetchError Value} (hurl : Url.parse r.name = .ok r.url)
    (hweb : r.url.isWeb = true) (h : c.finish r (net r.url) = (result, c'))
    (name : String) :
    c'.find? name = c.find? name ∨
      name = r.name ∧ ∃ document, c'.find? name = some document ∧
        Served net name document := by
  rcases finish_cases c r (net r.url) with ⟨document, hread, hfinish⟩ | ⟨e, hfinish⟩
  · rw [hfinish] at h
    cases h
    by_cases hname : r.name = name
    · subst hname
      obtain ⟨status, bytes, text, hreply, hrest⟩ := read_ok hread
      exact .inr ⟨rfl, document, Documents.find?_insert_self c _ _,
        r.url, status, bytes, text, hurl, hweb, hreply, hrest⟩
    · exact .inl (Documents.find?_insert_of_ne c document hname)
  · rw [hfinish] at h
    cases h
    exact .inl rfl

end Cache

end SchemaPipeline
