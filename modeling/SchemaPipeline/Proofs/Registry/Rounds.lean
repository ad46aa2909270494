import Mathlib.Data.Finset.Card
import SchemaPipeline.Engine.Scripted
import SchemaPipeline.Proofs.Lists
import SchemaPipeline.Proofs.Registry.Course

/-!
# How many rounds there can be

The only bound on the rounds of a compilation is what has been asked for. A
round that goes on asks for all documents of its report, and none of them may
have been asked for before. So every round but the last takes something away
from the documents that can be reported, unless its report names none at all.
`calls_le_of_reports` says this in numbers: at most one call more than there are
documents, not counting the calls that were answered by an empty report.

An empty report is no end. The compiler is called again with the same documents,
and if it has nothing else to say, so it goes on; see `exists_endless`.
-/

namespace SchemaPipeline.Registry

variable {σ κ : Type} [SchemaContext κ]

/-- The reports of missing documents in at most so many rounds. -/
def reports (compiler : Compiler σ κ) (net : Network)
    (arrival : List Cache.Request → List Cache.Request) (schema : Value) :
    Nat → Progress σ → List (List String)
  | 0, _ => []
  | calls + 1, p =>
    match attempt compiler schema p with
    | (.needs uris, q) =>
      uris ::
        match fetchMissing net arrival uris q with
        | (.ok (), q) => reports compiler net arrival schema calls q
        | (.error _, _) => []
    | _ => []

variable {compiler : Compiler σ κ} {net : Network}
  {arrival : List Cache.Request → List Cache.Request} {schema : Value}

theorem asked_of_fetchMissing {uris : List String} {p q : Progress σ}
    (h : fetchMissing net arrival uris p = (.ok (), q)) :
    askFor p.asked uris = .ok q.asked := by
  rw [fetchMissing] at h
  split at h
  · cases h
  · next asked hask =>
      simp only at h
      split at h
      · cases h
        exact hask
      · cases h

/-- As long as there is no result, each call has its report, and all that was
reported has been asked for, once. -/
theorem asked_of_unfinished {calls : Nat} {p q : Progress σ}
    (h : compileWithin compiler net arrival schema calls p = (none, q)) :
    (reports compiler net arrival schema calls p).length = calls ∧
      q.asked =
        p.asked ++ (reports compiler net arrival schema calls p).flatten ∧
      (p.asked.Nodup → q.asked.Nodup) := by
  induction calls generalizing p with
  | zero =>
      cases h
      exact ⟨rfl, (List.append_nil _).symm, id⟩
  | succ calls ih =>
      rw [compileWithin] at h
      cases hattempt : attempt compiler schema p with
      | mk a p' =>
          rw [hattempt] at h
          cases a with
          | done context => cases h
          | failed e => cases h
          | needs uris =>
              simp only at h
              cases hfetch : fetchMissing net arrival uris p' with
              | mk result p'' =>
                  rw [hfetch] at h
                  cases result with
                  | error e => cases h
                  | ok u =>
                      obtain ⟨hlength, hasked, hnodup⟩ := ih h
                      obtain ⟨hround, honce⟩ :=
                        askFor_ok (asked_of_fetchMissing hfetch)
                      rw [(attempt_progress hattempt).2.1] at hround honce
                      simp only [reports, hattempt, hfetch]
                      refine ⟨by rw [List.length_cons, hlength], ?_,
                        fun hp => hnodup (honce hp)⟩
                      rw [hasked, hround, List.flatten_cons, List.append_assoc]

/-- Without a result there have been no more calls than there are documents and
empty reports. -/
theorem calls_le_of_unfinished {state : σ} {cache : Cache} {U : Finset String}
    {calls : Nat}
    (hreported : ∀ uris ∈ reports compiler net arrival schema calls
      (Progress.start state cache), ∀ uri ∈ uris, uri ∈ U)
    (h : (compileWithin compiler net arrival schema calls
      (Progress.start state cache)).1 = none) :
    calls ≤ U.card + (reports compiler net arrival schema calls
      (Progress.start state cache)).count [] := by
  obtain ⟨hlength, hasked, hnodup⟩ :=
    asked_of_unfinished (q := (compileWithin compiler net arrival schema calls
      (Progress.start state cache)).2) (Prod.ext h rfl)
  have honce : (reports compiler net arrival schema calls
      (Progress.start state cache)).flatten.Nodup := by
    have := hnodup List.nodup_nil
    rwa [hasked] at this
  have hsubset : (reports compiler net arrival schema calls
      (Progress.start state cache)).flatten.toFinset ⊆ U := by
    intro uri huri
    obtain ⟨uris, huris, hmem⟩ := List.mem_flatten.1 (List.mem_toFinset.1 huri)
    exact hreported uris huris uri hmem
  have hcard := Finset.card_le_card hsubset
  rw [List.toFinset_card_of_nodup honce] at hcard
  have := length_le_flatten (reports compiler net arrival schema calls
    (Progress.start state cache))
  omega

/-- A compiler whose reports are empty is called again and again. -/
theorem unfinished_of_empty
    (harrival : ∀ requests, (arrival requests).Perm requests)
    (hempty : ∀ documents state,
      (compiler.compile schema documents state).1 = .error (.missing []))
    (calls : Nat) (p : Progress σ) :
    (compileWithin compiler net arrival schema calls p).1 = none := by
  induction calls generalizing p with
  | zero => rfl
  | succ calls ih =>
      have hattempt : (attempt compiler schema p).1 = .needs [] := by
        simp only [attempt, hempty p.cache p.state]
      have hnone : arrival [] = [] := List.perm_nil.1 (harrival [])
      rw [compileWithin]
      cases hp : attempt compiler schema p with
      | mk a p' =>
          rw [hp] at hattempt
          cases hattempt
          simp only [fetchMissing, askFor, Cache.fetchAll, Cache.startAll, hnone,
            Cache.finishAll]
          exact ih _

/-- If all documents that are ever reported are among so many, then a
compilation has its result after at most one call more, as long as no report is
empty; and each empty report costs no more than the call that it answers. -/
theorem calls_le_of_reports (compiler : Compiler σ κ) (net : Network)
    (arrival : List Cache.Request → List Cache.Request) (schema : Value)
    (state : σ) (cache : Cache) (U : Finset String)
    (hreported : ∀ calls, ∀ uris ∈ reports compiler net arrival schema calls
      (Progress.start state cache), ∀ uri ∈ uris, uri ∈ U) :
    (∀ calls, (compileWithin compiler net arrival schema calls
        (Progress.start state cache)).1 = none →
      calls ≤ U.card + (reports compiler net arrival schema calls
        (Progress.start state cache)).count []) ∧
      ((∀ calls, [] ∉ reports compiler net arrival schema calls
          (Progress.start state cache)) →
        (compileWithin compiler net arrival schema (U.card + 1)
          (Progress.start state cache)).1.isSome) := by
  refine ⟨fun calls h => calls_le_of_unfinished (hreported calls) h,
    fun hnonempty => ?_⟩
  rw [Option.isSome_iff_ne_none]
  intro h
  have hcalls := calls_le_of_unfinished (hreported (U.card + 1)) h
  rw [List.count_eq_zero.2 (hnonempty (U.card + 1))] at hcalls
  omega

/-- A compiler that gives its answers one after the other. -/
def answering (rounds : List Scripted.Round) :
    Compiler Scripted.State Scripted.Context :=
  Scripted.compiler ⟨rounds, [], [], false⟩

/-- One document, which is cached, and so two calls. -/
theorem calls_le_of_reports_single :
    (compileWithin (answering [.missing ["foo:a"], .ready]) Network.unreachable id
      .null 2 (Progress.start .start (Cache.put .empty "foo:a" .null))).1.isSome := by
  have hreports : ∀ calls, reports (answering [.missing ["foo:a"], .ready])
      Network.unreachable id .null calls
      (Progress.start .start (Cache.put .empty "foo:a" .null)) =
        if calls = 0 then [] else [["foo:a"]] := by
    intro calls
    rcases calls with _ | _ | calls <;> rfl
  refine (calls_le_of_reports _ _ _ _ _ _ {"foo:a"} fun calls => ?_).2
    fun calls => ?_
  · rw [hreports]
    split <;> simp
  · rw [hreports]
    split <;> simp

/-- Nothing is ever reported missing by name, and yet one call is not enough,
nor is any number of them if the compiler keeps to its answer. -/
theorem exists_endless :
    (∀ calls, ∀ uris ∈ reports (answering [.missing [], .ready])
        Network.unreachable id .null calls (Progress.start .start .empty),
      ∀ uri ∈ uris, uri ∈ (∅ : Finset String)) ∧
      (compileWithin (answering [.missing [], .ready]) Network.unreachable id
        .null (Finset.card (∅ : Finset String) + 1)
        (Progress.start .start .empty)).1 = none ∧
      ∀ calls, (compileWithin (answering [.missing []]) Network.unreachable id
        .null calls (Progress.start .start .empty)).1 = none := by
  refine ⟨fun calls uris huris uri huri => ?_, rfl, fun calls => ?_⟩
  · rcases calls with _ | _ | calls
    · cases huris
    · cases List.mem_singleton.1 huris
      cases huri
    · cases List.mem_singleton.1 huris
      cases huri
  · refine unfinished_of_empty (fun _ => List.Perm.refl _) (fun documents state => ?_)
      calls _
    simp only [answering, Scripted.compiler, Scripted.Script.round]
    cases hcall : [Scripted.Round.missing []][state.calls]? with
    | none => rfl
    | some round =>
        cases List.mem_singleton.1 (List.mem_of_getElem? hcall)
        rfl

end SchemaPipeline.Registry
