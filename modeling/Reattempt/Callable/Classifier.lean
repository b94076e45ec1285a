import Reattempt.Callable.Basic

/-!
# Classifiers

A classifier decides which causes are worth another attempt. Copies of a classifier share whatever
state its predicate keeps.
-/

namespace Reattempt

/-- A predicate on causes: true means that another attempt is worth making. -/
structure Classifier (σ : Type) where
  predicate : Failure → StateM σ (Reply Bool)

namespace Classifier

variable {σ : Type}

/-- A classifier that looks at nothing but the cause, and never panics. -/
def ofVerdict (recoverable : Failure → Bool) : Classifier σ :=
  ⟨fun cause => pure (.returned (recoverable cause))⟩

/-- Every failure is worth another attempt. -/
def always : Classifier σ := ofVerdict fun _ => true

def never : Classifier σ := ofVerdict fun _ => false

/-- Causes of one type end the run, all others are worth another attempt. -/
def rejecting (kind : Kind) : Classifier σ := ofVerdict fun cause => cause.kind != kind

/-- The classifier used where none is chosen. -/
def standard : Classifier σ := always

/-- Asks whether another attempt should be made after `cause`. -/
def judge (c : Classifier σ) (cause : Failure) : StateM σ (Reply Bool) :=
  c.predicate cause

/-- The shape of a classifier, which shows nothing of its predicate. -/
def shape (_ : Classifier σ) : Shape := .hidden "Classifier"

end Classifier

end Reattempt
