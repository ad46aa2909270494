import SchemaPipeline.Validation.Obligation

/-!
# Judgments

Whether a plan accepts a value, and the violations if it does not. Both go from a plan to its
obligations and from those to the trials they consist in. A chain of trials may lead back to where
it started; the depth of the chain is therefore bounded, and a trial beyond the bound is taken to be
met, since nothing that could be found there has not been looked for before.
-/

namespace SchemaPipeline.Trial

def obligations (t : Trial) : List Obligation := t.plan.obligations t.path t.value

/-- How long a chain of trials may get. -/
def depthLimit : Nat := Plan.depthLimit

def acceptsWithin : Nat → Trial → Inquiry Bool
  | 0, _ => pure true
  | depth + 1, t => Obligation.allMet (acceptsWithin depth) t.obligations

def violationsWithin : Nat → Trial → Inquiry (List Violation)
  | 0, _ => pure []
  | depth + 1, t =>
    Obligation.collect
      (Obligation.findings (acceptsWithin depth) (violationsWithin depth) t.value t.path)
      t.obligations

def violations (t : Trial) : Inquiry (List Violation) := violationsWithin depthLimit t

end SchemaPipeline.Trial
