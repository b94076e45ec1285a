import Reattempt.Config.Basic

/-!
# One attempt

An attempt polls the check, calls the operation, and drives it to its end. On a failure it shows
its bare cause to the notifier and the classifier, and either asks for another attempt after a
wait or settles the run. Panics of callers' code stop here: a panicking check counts as a client
that is gone, a panicking classifier as a rejection, and a panic of the operation as a failure.
-/

namespace Reattempt

/-- What an attempt comes to when it is driven as far as it goes. -/
inductive Step (φ α : Type) where
  /-- The operation is pending and wants to be polled again after the given time. -/
  | suspended (operation : φ) (pause : Duration)
  /-- The run is over. -/
  | settled (outcome : Outcome α)
  /-- Another attempt is wanted after the given delay. -/
  | retry (delay : Duration)

namespace Config

variable {σ φ α : Type}

def isCancelled (c : Config σ φ α) : Noted (Note α) σ Bool := do
  match ← Noted.ask c.check.poll (fun reply => .act (.checked reply)) with
  | .returned gone => pure gone
  | .panicked payload =>
    Noted.log (.checkPanicked (Failure.ofPayload payload).text)
    pure true

/-- Shows a cause to the notifier, if there is one. -/
def report (c : Config σ φ α) (cause : Failure) : Noted (Note α) σ Unit :=
  match c.notifier with
  | none => pure ()
  | some notifier => notifier.notify cause

def judge (c : Config σ φ α) (cause : Failure) : Noted (Note α) σ Bool := do
  match ← Noted.ask (c.classifier.judge cause)
      (fun reply => .act (.classified cause reply)) with
  | .returned verdict => pure verdict
  | .panicked payload =>
    Noted.log (.classifierPanicked (Failure.ofPayload payload).text)
    pure false

/-- Ends an attempt that failed. The notifier and the classifier see the bare failure; the log
and the outcome keep it as it was. -/
def fail (c : Config σ φ α) (attempt : UInt32) (failure : Failure) :
    Noted (Note α) σ (Step φ α) := do
  let cause := failure.bare
  c.report cause
  if ← c.judge cause then
    let delay := c.backoff.delay attempt
    Noted.log (.failed c.session c.action failure.text)
    Noted.log (.waiting c.session c.action delay)
    pure (.retry delay)
  else
    Noted.log (.permanentlyFailed c.session c.action failure.text)
    pure (.settled (.error (.fatal failure)))

def pollAct : Progress φ α → Act α
  | .pending _ _ => .polled none
  | .done reply => .polled (some reply)

/-- Polls the begun operation of an attempt, and ends the attempt if it has finished. A panic
while the operation is polled is one that came through its completion. -/
def resume (c : Config σ φ α) (attempt : UInt32) (operation : φ) :
    Noted (Note α) σ (Step φ α) := do
  match ← Noted.ask (c.operation.poll operation) (fun progress => .act (pollAct progress)) with
  | .pending next pause => pure (.suspended next pause)
  | .done (.returned (.ok value)) =>
    Noted.log .succeeded
    pure (.settled (.ok value))
  | .done (.returned (.error failure)) => c.fail attempt failure
  | .done (.panicked payload) => c.fail attempt (.completion (Failure.ofPayload payload))

/-- Begins an attempt and drives it as far as it goes. -/
def start (c : Config σ φ α) (attempt : UInt32) : Noted (Note α) σ (Step φ α) := do
  if ← c.isCancelled then
    Noted.log .clientGone
    pure (.settled (.error (.cancelled c.session)))
  else
    Noted.log .starting
    match ← Noted.ask c.operation.call (fun reply => .act (.called reply.erase)) with
    | .returned operation => c.resume attempt operation
    | .panicked payload => c.fail attempt (Failure.ofPayload payload)

end Config

end Reattempt
