import Reattempt.Backoff.Basic
import Reattempt.Duration.Text
import Reattempt.Text.Shape

/-!
# The shape of a backoff table
-/

namespace Reattempt

/-- The shape of a duration is its short form. -/
def Duration.shape (d : Duration) : Shape := .atom d.text

def Backoff.shape (b : Backoff) : Shape :=
  .record "BackoffTable" [("waits", .list (b.waits.map Duration.shape))] true

end Reattempt
