import Reattempt.Backoff.Shape
import Reattempt.Callable.Classifier
import Reattempt.Callable.Notifier

/-!
# Configurations

Everything that a run needs to know. A configuration does not change, and any number of runs can be
started from it.
-/

namespace Reattempt

/-- A complete configuration. Its scheduler is named by the number under which it is known. -/
structure Config (σ φ α : Type) where
  action : String
  session : String
  operation : Operation σ φ α
  check : Check σ
  scheduler : Nat
  notifier : Option (Notifier σ)
  classifier : Classifier σ
  backoff : Backoff

/-- A copy of a configuration has the same settings. Copies share their callables. -/
def Config.copy {σ φ α : Type} (c : Config σ φ α) : Config σ φ α where
  action := c.action
  session := c.session
  operation := c.operation
  check := c.check
  scheduler := c.scheduler
  notifier := c.notifier
  classifier := c.classifier
  backoff := c.backoff

@[simp] theorem Config.copy_eq {σ φ α : Type} (c : Config σ φ α) : c.copy = c := rfl

/-- The shape of a configuration shows what can be shown of its settings. -/
def Config.shape {σ φ α : Type} (c : Config σ φ α) : Shape :=
  .record "RetryConfig"
    [("action", .quoted c.action), ("session_id", .quoted c.session),
      ("notifier", .option (c.notifier.map Notifier.shape)), ("classifier", c.classifier.shape),
      ("backoff", c.backoff.shape)] false

end Reattempt
