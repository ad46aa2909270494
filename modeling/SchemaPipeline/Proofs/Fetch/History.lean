import Mathlib.Data.List.DropRight
import SchemaPipeline.Proofs.Fetch.Retention

/-!
# A cache over a run of calls

Documents are put into a cache by hand or fetched through it, and the network
may answer another way each time. What a single fetch does is one of three
things (`fetch_cases`): it finds the name, or it sends its request and keeps
what is served, or it fails for a reason and leaves the cache alone.

Over a run of calls each entry then has a history of its own. `find?_after` says
that it depends only on the calls with its name, and that a fetch has a say in
it only while there is no entry. This is so for names that are their own normal
form. Every other name is looked up as another one by a fetch, and then there is
a cache with an entry that is not found under it (`Remembers.normal`).
-/

namespace SchemaPipeline

/-! ## Normal names -/

namespace Url

theorem dropTrailingSpaces_idempotent (text : String) :
    dropTrailingSpaces (dropTrailingSpaces text) = dropTrailingSpaces text := by
  rw [dropTrailingSpaces, dropTrailingSpaces, String.toList_ofList]
  exact congrArg String.ofList (List.rdropWhile_idempotent (· == ' ') text.toList)

theorem withoutFragment_idempotent (u : Url) :
    u.withoutFragment.withoutFragment = u.withoutFragment := by
  obtain ⟨scheme, username, password, host, port, path, query, fragment⟩ := u
  cases path with
  | segments parts => rfl
  | opaquePath text =>
      cases query with
      | some query => rfl
      | none => simp only [withoutFragment, dropTrailingSpaces_idempotent]

end Url

/-- Nothing is left to cut at. -/
theorem Text.splitFirst_before {c : Char} {cs before after : List Char}
    (h : Text.splitFirst c cs = some (before, after)) :
    Text.splitFirst c before = none := by
  induction cs generalizing before with
  | nil => cases h
  | cons d rest ih =>
      rw [Text.splitFirst] at h
      split at h
      · cases h
        rfl
      · next hd =>
          obtain ⟨⟨front, back⟩, hrest, heq⟩ := Option.map_eq_some_iff.1 h
          cases heq
          rw [Text.splitFirst, if_neg hd, ih hrest]
          rfl

namespace Reference

/-- The document part of a URI is read as it was written: a URL comes back from
its text, and a text that is no URL does not become one without its fragment. -/
def Restored (uri : String) : Prop :=
  match Url.parse? uri with
  | some u => Url.parse? u.withoutFragment.text = some u.withoutFragment
  | none => Url.parse? (split uri).1 = none

theorem split_idempotent (uri : String) :
    (split (split uri).1).1 = (split uri).1 := by
  cases h : Text.splitFirst '#' uri.toList with
  | none => simp only [split, h]
  | some cut =>
      obtain ⟨before, after⟩ := cut
      simp only [split, h, String.toList_ofList, Text.splitFirst_before h]

theorem Restored.normal {uri : String} (h : Restored uri) :
    Normal (normalize uri) := by
  unfold Restored at h
  rw [Normal]
  cases hparse : Url.parse? uri with
  | some u =>
      rw [hparse] at h
      simp only at h
      simp only [normalize, hparse, h, Url.withoutFragment_idempotent]
  | none =>
      rw [hparse] at h
      simp only at h
      simp only [normalize, hparse, h, split_idempotent]

end Reference

namespace Cache

/-! ## A single fetch -/

/-- Why a network has no document under a name, with the error for it. -/
inductive Unserved (net : Network) (name : String) : FetchError → Prop where
  | noUrl {e : UrlError} (hurl : Url.parse name = .error e) :
      Unserved net name (.invalidUri name e.message)
  | otherScheme {url : Url} (hurl : Url.parse name = .ok url)
      (hweb : url.isWeb = false) :
      Unserved net name
        (.invalidUri name ("unsupported scheme '" ++ url.scheme ++ "'"))
  | failed {url : Url} {reason : String} (hurl : Url.parse name = .ok url)
      (hweb : url.isWeb = true) (hreply : net url = .failed reason) :
      Unserved net name (.transport name reason)
  | status {url : Url} {code : Nat} {body : Option Utf8.Bytes}
      (hurl : Url.parse name = .ok url) (hweb : url.isWeb = true)
      (hreply : net url = .answered code body) (hcode : 300 ≤ code) :
      Unserved net name (.status name code)
  | brokenOff {url : Url} {code : Nat} (hurl : Url.parse name = .ok url)
      (hweb : url.isWeb = true) (hreply : net url = .answered code none)
      (hcode : code < 300) :
      Unserved net name (.transport name "error decoding response body")
  | notJson {url : Url} {code : Nat} {bytes : Utf8.Bytes}
      (hurl : Url.parse name = .ok url) (hweb : url.isWeb = true)
      (hreply : net url = .answered code (some bytes)) (hcode : code < 300)
      (hjson : ((Utf8.decode? bytes).bind fun cs =>
        Json.parse (String.ofList cs)) = none) :
      Unserved net name (.notJson name)

theorem served_or_unserved (net : Network) (name : String) :
    (∃ document, Served net name document) ∨ ∃ e, Unserved net name e := by
  cases hurl : Url.parse name with
  | error e => exact .inr ⟨_, .noUrl hurl⟩
  | ok url =>
      cases hweb : url.isWeb with
      | false => exact .inr ⟨_, .otherScheme hurl hweb⟩
      | true =>
          cases hreply : net url with
          | failed reason => exact .inr ⟨_, .failed hurl hweb hreply⟩
          | answered code body =>
              rcases Nat.lt_or_ge code 300 with hcode | hcode
              · cases body with
                | none => exact .inr ⟨_, .brokenOff hurl hweb hreply hcode⟩
                | some bytes =>
                    cases hjson : (Utf8.decode? bytes).bind fun cs =>
                        Json.parse (String.ofList cs) with
                    | none => exact .inr ⟨_, .notJson hurl hweb hreply hcode hjson⟩
                    | some document =>
                        obtain ⟨text, htext, hparse⟩ :=
                          Option.bind_eq_some_iff.1 hjson
                        exact .inl ⟨document, url, code, bytes, text, hurl, hweb,
                          hreply, hcode, htext, hparse⟩
              · exact .inr ⟨_, .status hurl hweb hreply hcode⟩

section

variable {c : Cache} {net : Network} {uri : String}

theorem fetch_of_hit {document : Value}
    (h : c.get? (Reference.normalize uri) = some document) :
    c.fetch net uri = (.ok document, c) := by
  rw [fetch, start_of_find? h]

theorem start_of_web {url : Url} (h : c.get? (Reference.normalize uri) = none)
    (hurl : Url.parse (Reference.normalize uri) = .ok url)
    (hweb : url.isWeb = true) :
    c.start uri = .request ⟨Reference.normalize uri, url⟩ := by
  simp only [start, h, hurl, hweb, if_true]

theorem fetch_of_served {document : Value}
    (h : c.get? (Reference.normalize uri) = none)
    (hserved : Served net (Reference.normalize uri) document) :
    c.fetch net uri =
      (.ok document, Documents.insert c (Reference.normalize uri) document) := by
  obtain ⟨url, code, bytes, text, hurl, hweb, hreply, hcode, htext, hparse⟩ :=
    hserved
  have hread : read (Reference.normalize uri) (net url) = .ok document := by
    rw [hreply, read, if_neg (Nat.not_le.2 hcode)]
    simp only [htext, Option.bind_some, hparse]
  simp only [fetch, start_of_web h hurl hweb, finish, hread]

theorem fetch_of_unserved {e : FetchError}
    (h : c.get? (Reference.normalize uri) = none)
    (hunserved : Unserved net (Reference.normalize uri) e) :
    c.fetch net uri = (.error e, c) := by
  cases hunserved with
  | noUrl hurl => simp only [fetch, start, h, hurl]
  | otherScheme hurl hweb =>
      simp only [fetch, start, h, hurl, hweb, Bool.false_eq_true, if_false]
  | failed hurl hweb hreply =>
      simp only [fetch, start_of_web h hurl hweb, finish, hreply, read]
  | status hurl hweb hreply hcode =>
      simp only [fetch, start_of_web h hurl hweb, finish, hreply, read, if_pos hcode]
  | brokenOff hurl hweb hreply hcode =>
      simp only [fetch, start_of_web h hurl hweb, finish, hreply, read,
        if_neg (Nat.not_le.2 hcode)]
  | notJson hurl hweb hreply hcode hjson =>
      simp only [fetch, start_of_web h hurl hweb, finish, hreply, read,
        if_neg (Nat.not_le.2 hcode), hjson]

/-- What a fetch does: it finds the name, or keeps what is served under it, or
fails and changes nothing. -/
theorem fetch_cases (c : Cache) (net : Network) (uri : String) :
    (∃ document, c.get? (Reference.normalize uri) = some document ∧
      c.fetch net uri = (.ok document, c)) ∨
    (∃ document, c.get? (Reference.normalize uri) = none ∧
      Served net (Reference.normalize uri) document ∧
      c.fetch net uri =
        (.ok document, Documents.insert c (Reference.normalize uri) document)) ∨
    (∃ e, c.get? (Reference.normalize uri) = none ∧
      Unserved net (Reference.normalize uri) e ∧
      c.fetch net uri = (.error e, c)) := by
  cases hfind : c.get? (Reference.normalize uri) with
  | some document => exact .inl ⟨document, rfl, fetch_of_hit hfind⟩
  | none =>
      rcases served_or_unserved net (Reference.normalize uri) with
        ⟨document, hserved⟩ | ⟨e, hunserved⟩
      · exact .inr (.inl ⟨document, rfl, hserved, fetch_of_served hfind hserved⟩)
      · exact .inr (.inr ⟨e, rfl, hunserved, fetch_of_unserved hfind hunserved⟩)

/-- Only the name that was asked for can change. -/
theorem find?_fetch_of_ne {name : String} (h : Reference.normalize uri ≠ name) :
    (c.fetch net uri).2.find? name = c.find? name := by
  rcases fetch_cases c net uri with
    ⟨document, -, hfetch⟩ | ⟨document, -, -, hfetch⟩ | ⟨e, -, -, hfetch⟩
  · rw [hfetch]
  · rw [hfetch]
    exact Documents.find?_insert_of_ne c document h
  · rw [hfetch]

theorem fetch_error_iff {e : FetchError} {c' : Cache} :
    c.fetch net uri = (.error e, c') ↔
      c.get? (Reference.normalize uri) = none ∧
        Unserved net (Reference.normalize uri) e ∧ c' = c := by
  constructor
  · intro h
    rcases fetch_cases c net uri with
      ⟨document, -, hfetch⟩ | ⟨document, -, -, hfetch⟩ |
        ⟨e', hnone, hunserved, hfetch⟩
    · cases hfetch.symm.trans h
    · cases hfetch.symm.trans h
    · cases hfetch.symm.trans h
      exact ⟨hnone, hunserved, rfl⟩
  · rintro ⟨hnone, hunserved, rfl⟩
    exact fetch_of_unserved hnone hunserved

/-- The entry under a normal name after a fetch of it. -/
theorem find?_fetch_self (hnormal : Reference.Normal (Reference.normalize uri)) :
    (c.fetch net uri).2.find? (Reference.normalize uri) =
      (c.find? (Reference.normalize uri)).or
        (document? net (Reference.normalize uri)) := by
  have hget : c.get? (Reference.normalize uri) =
      c.find? (Reference.normalize uri) := by
    rw [get?, hnormal]
  rcases fetch_cases c net uri with
    ⟨document, hfind, hfetch⟩ | ⟨document, hnone, hserved, hfetch⟩ |
      ⟨e, hnone, -, hfetch⟩
  · rw [hfetch, ← hget, hfind, Option.some_or]
  · rw [hfetch, ← hget, hnone, Option.none_or, served_iff.1 hserved]
    exact Documents.find?_insert_self c _ document
  · rw [hfetch, ← hget, hnone, Option.none_or]
    cases hdocument : document? net (Reference.normalize uri) with
    | none => rfl
    | some document =>
        have hok := fetch_of_served hnone (served_iff.2 hdocument)
        cases hfetch.symm.trans hok

end

/-! ## Runs -/

/-- A call that can change a cache. Each fetch has the network as it is at the
time. -/
inductive Action where
  | insert (uri : String) (document : Value)
  | fetch (net : Network) (uri : String)

/-- A document is put in by hand under a name. -/
def Action.Inserts (name : String) : Action → Prop
  | .insert uri _ => Reference.normalize uri = name
  | .fetch _ _ => False

def perform (c : Cache) : Action → Cache
  | .insert uri document => c.put uri document
  | .fetch net uri => (c.fetch net uri).2

def after (c : Cache) (actions : List Action) : Cache := actions.foldl perform c

/-- What a call makes of the entry under a name. -/
def revise (name : String) (entry : Option Value) : Action → Option Value
  | .insert uri document =>
    if Reference.normalize uri = name then some document else entry
  | .fetch net uri =>
    if Reference.normalize uri = name then entry.or (document? net name) else entry

theorem find?_perform {name : String} (h : Reference.Normal name) (c : Cache)
    (action : Action) :
    (c.perform action).find? name = revise name (c.find? name) action := by
  cases action with
  | insert uri document =>
      by_cases hname : Reference.normalize uri = name
      · subst hname
        rw [revise, if_pos rfl]
        exact Documents.find?_insert_self c _ document
      · rw [revise, if_neg hname]
        exact Documents.find?_insert_of_ne c document hname
  | fetch net uri =>
      by_cases hname : Reference.normalize uri = name
      · subst hname
        rw [revise, if_pos rfl]
        exact find?_fetch_self h
      · rw [revise, if_neg hname]
        exact find?_fetch_of_ne hname

/-- The entry under a normal name has a history of its own. -/
theorem find?_after {name : String} (h : Reference.Normal name)
    (actions : List Action) (c : Cache) :
    (c.after actions).find? name = actions.foldl (revise name) (c.find? name) := by
  induction actions generalizing c with
  | nil => rfl
  | cons action rest ih =>
      rw [List.foldl_cons, ← find?_perform h c action]
      exact ih (c.perform action)

theorem revise_of_some {name : String} {action : Action} {document : Value}
    (h : ¬ action.Inserts name) :
    revise name (some document) action = some document := by
  cases action with
  | insert uri other => exact if_neg h
  | fetch net uri => rw [revise, Option.some_or, ite_self]

theorem foldl_revise_of_some {name : String} {actions : List Action}
    {document : Value} (h : ∀ action ∈ actions, ¬ action.Inserts name) :
    actions.foldl (revise name) (some document) = some document := by
  induction actions with
  | nil => rfl
  | cons action rest ih =>
      rw [List.foldl_cons, revise_of_some (h action List.mem_cons_self)]
      exact ih fun a ha => h a (List.mem_cons_of_mem _ ha)

/-! ## What is remembered -/

/-- The request that a fetch sends, if it sends one. -/
def request? (c : Cache) (uri : String) : Option Request :=
  match c.start uri with
  | .request r => some r
  | _ => none

/-- What a cache promises of the documents under the name of a URI. -/
structure Remembers (uri : String) : Prop where
  /-- A document that is there is found, without a request. -/
  hit : ∀ (c : Cache) (net : Network) (document : Value),
    c.get? uri = some document →
      c.request? uri = none ∧ c.fetch net uri = (.ok document, c)
  /-- A document that was fetched is there for every URI of that name. -/
  gained : ∀ (c c' : Cache) (net : Network) (document : Value),
    c.fetch net uri = (.ok document, c') →
      ∀ other, Reference.normalize other = Reference.normalize uri →
        c'.get? other = some document
  /-- A document that is there stays until another is put in by hand. -/
  kept : ∀ (c : Cache) (actions : List Action) (document : Value),
    c.get? uri = some document →
      (∀ action ∈ actions, ¬ action.Inserts (Reference.normalize uri)) →
        (c.after actions).get? uri = some document

theorem Remembers.of_normal {uri : String}
    (h : Reference.Normal (Reference.normalize uri)) : Remembers uri where
  hit c net document hfind := by
    have hname : c.get? (Reference.normalize uri) = some document := by
      rwa [get?, h]
    refine ⟨?_, fetch_of_hit hname⟩
    rw [request?, start_of_find? hname]
  gained c c' net document hfetch other hother := by
    rw [get?, hother]
    rcases fetch_cases c net uri with
      ⟨found, hfind, heq⟩ | ⟨found, -, -, heq⟩ | ⟨e, -, -, heq⟩
    · cases heq.symm.trans hfetch
      rwa [get?, h] at hfind
    · cases heq.symm.trans hfetch
      exact Documents.find?_insert_self c _ document
    · cases heq.symm.trans hfetch
  kept c actions document hfind hactions := by
    rw [get?, find?_after h]
    rw [get?] at hfind
    rw [hfind]
    exact foldl_revise_of_some hactions

/-- A fetch looks the name up under its own normal form. If that is another
name, then it finds the document of the other one. -/
theorem Remembers.normal {uri : String} (h : Remembers uri) :
    Reference.Normal (Reference.normalize uri) := by
  by_contra hne
  let name := Reference.normalize uri
  let other : Cache := Documents.empty.insert (Reference.normalize name) (.bool false)
  let c : Cache := Documents.insert other name (.bool true)
  have hown : c.get? uri = some (.bool true) := Documents.find?_insert_self _ _ _
  have hother : c.get? name = some (.bool false) := by
    rw [get?, Documents.find?_insert_of_ne _ _ (Ne.symm hne)]
    exact Documents.find?_insert_self _ _ _
  have hfetch := (h.hit c .unreachable _ hown).2
  cases (fetch_of_hit hother).symm.trans hfetch

/-- A fetch that fails has its reason, and changes nothing; one that succeeds
changes no other name. What is kept under the name of a URI is found again if
and only if the name is its own normal form, as are the names of all URIs that
are read as they were written. -/
theorem remembers_iff_normal (uri : String) :
    (∀ (c c' : Cache) (net : Network) (e : FetchError),
      c.fetch net uri = (.error e, c') ↔
        c.get? (Reference.normalize uri) = none ∧
          Unserved net (Reference.normalize uri) e ∧ c' = c) ∧
      (∀ (c c' : Cache) (net : Network) (document : Value),
        c.fetch net uri = (.ok document, c') →
          ∀ name, Reference.normalize uri ≠ name → c'.find? name = c.find? name) ∧
      (Remembers uri ↔ Reference.Normal (Reference.normalize uri)) ∧
      (Reference.Restored uri → Reference.Normal (Reference.normalize uri)) := by
  refine ⟨fun c c' net e => fetch_error_iff, ?_, ?_, Reference.Restored.normal⟩
  · intro c c' net document hfetch name hname
    have hsame : (c.fetch net uri).2.find? name = c.find? name :=
      find?_fetch_of_ne hname
    rwa [hfetch] at hsame
  · exact ⟨Remembers.normal, Remembers.of_normal⟩

example : Reference.Normal (Reference.normalize "http://[::1]/a.json#b") := by
  rw [Reference.Normal]
  decide +kernel

/-- A text that is no URL before its fragment is cut off. The blank is then at
the end of the name and is dropped when the name is read, so that the name is
asked for under another one, here in vain, and there its document is replaced. -/
theorem exists_forgotten :
    (Url.parse? "foo://a #x" = none ∧
      (Cache.put .empty "foo://a #x" (.bool true)).get? "foo://a #x" =
        some (.bool true) ∧
      ∀ net : Network,
        ((Cache.put .empty "foo://a #x" (.bool true)).fetch net "foo://a #x").1 =
          .error (.invalidUri "foo://a " "unsupported scheme 'foo'")) ∧
      Url.parse? "http://[::1] #x" = none ∧
      (Cache.put .empty "http://[::1] #x" (.bool true)).get? "http://[::1] #x" =
        some (.bool true) ∧
      ((Cache.put .empty "http://[::1] #x" (.bool true)).fetch
          (fun _ => .answered 200 (some [0x31])) "http://[::1] #x").2.get?
            "http://[::1] #x" = some (.ofInt 1) :=
  ⟨⟨rfl, by decide +kernel, fun net => rfl⟩, rfl, by decide +kernel,
    by decide +kernel⟩

end Cache

end SchemaPipeline
