/-!
# Faults of a configuration

What can be missing before a run may start.
-/

namespace Reattempt

/-- A required part of the configuration that is missing. -/
inductive ConfigError where
  /-- A backoff table needs at least one wait. -/
  | noWaits
  /-- No scheduler was given and none could be found. -/
  | noScheduler
  deriving DecidableEq

def ConfigError.text : ConfigError → String
  | .noWaits => "missing required configuration: backoff table is empty"
  | .noScheduler => "missing required configuration: no scheduler available"

end Reattempt
