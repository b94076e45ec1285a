import Reattempt.Backoff.Shape
import Reattempt.Scheduler.Basic

/-!
# Recording schedulers

A recorder counts the work that is to run at once and remembers every requested delay, and then
passes the request on. A request is recorded before it is passed on, so the record holds it
whatever becomes of the work.
-/

namespace Reattempt

/-- What a recorder remembers. -/
structure Record where
  submissions : Nat
  delays : List Duration
  deriving DecidableEq

namespace Record

def empty : Record := ⟨0, []⟩

def add (r : Record) : Request → Record
  | .now => { r with submissions := r.submissions + 1 }
  | .after delay => { r with delays := r.delays ++ [delay] }

/-- The sum of all requested delays, if a duration can hold it. -/
def total? (r : Record) : Option Duration := Duration.sum? r.delays

/-- The shape of a recorder shows its record and nothing of what is behind it. -/
def shape (r : Record) : Shape :=
  .record "RecordingScheduler"
    [("record", .record "Record"
      [("submissions", .number r.submissions), ("delays", .list (r.delays.map Duration.shape))]
      true)] false

end Record

/-- Records every request and passes it on to `inner`. -/
def Scheduler.recording {ω S : Type} (inner : Scheduler ω S) : Scheduler ω (Record × S) :=
  (inner.focus Prod.snd fun s t => (t.1, s)).observed fun request t => (t.1.add request, t.2)

end Reattempt
