import SchemaPipeline.Engine.Context
import SchemaPipeline.Pointer

/-!
# Scripted compilers

A compiler that gives its answers from a script, whatever the schema: one entry for each call, the
last one again and again. Its contexts have the documents and the violations that the script says.
It keeps a log of what was asked of it.
-/

namespace SchemaPipeline.Scripted

inductive Round where
  | missing (uris : List String)
  | invalid (reason : String)
  | ready

/-- A document with the documents that can be reached from it. -/
inductive Shelf where
  | mk (schema : Value) (documents : List (String × Shelf))
deriving Inhabited

structure Script where
  rounds : List Round
  documents : List (String × Shelf)
  violations : List Violation
  deferred : Bool

inductive Entry where
  | compile (given : List String)
  | format (name : String) (isAsync : Bool)

structure State where
  calls : Nat
  log : List Entry

def State.start : State := ⟨0, []⟩

structure Context where
  schema : Value
  documents : List (String × Shelf)
  report : Report
  deferred : Bool

/-- The context of a document on a shelf, which accepts every value. -/
def Shelf.context : Shelf → Context
  | .mk schema documents => ⟨schema, documents, Report.empty, false⟩

instance : SchemaContext Context where
  schema c := c.schema
  validate c _ := ⟨c.deferred, c.report, []⟩
  fragment c f := (Pointer.ofFragment f).bind (·.resolve c.schema)
  document c reference := (c.documents.lookup reference).map Shelf.context

/-- The answer of a call: the entry of its number, or the last one. -/
def Script.round (s : Script) (call : Nat) : Round :=
  (s.rounds[call]?.or s.rounds.getLast?).getD .ready

/-- Whether a text comes before another one by its bytes, which is the order by code points. -/
def precedes (a b : String) : Bool := decide (a < b) || a == b

def sorted (names : List String) : List String := names.mergeSort precedes

def compiler (s : Script) : Compiler State Context where
  compile schema given state :=
    let result :=
      match s.round state.calls with
      | .missing uris => .error (.missing uris)
      | .invalid reason => .error (.invalid reason)
      | .ready => .ok ⟨schema, s.documents, ⟨s.violations⟩, s.deferred⟩
    (result, ⟨state.calls + 1, state.log ++ [.compile (sorted given.names)]⟩)
  register f state := { state with log := state.log ++ [.format f.name f.isAsync] }

end SchemaPipeline.Scripted
