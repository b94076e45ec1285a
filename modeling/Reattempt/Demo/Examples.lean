import Reattempt.Backoff.Fibonacci
import Reattempt.Demo.Scene

/-!
# The demonstration

Five examples: a run that succeeds at its third attempt, the waits of two tables, failures that are
and are not worth another attempt, a notifier, and a run whose client goes away.
-/

namespace Reattempt.Demo

open Scripted

/-- The type of failed requests in the demonstration. -/
def requestType : String := "demo.HttpError"

def failedRequest (e : HttpFault) : Failure := e.toFailure requestType

/-- Only time-outs and errors of the server are worth another attempt. -/
def isTransient (cause : Failure) : Bool := HttpFault.isTransient requestType cause

/-- A table of the given milliseconds; the demonstration has no empty one. -/
def millis (first : UInt64) (rest : List UInt64) : Backoff :=
  ⟨(first :: rest).map .ofMillis, by simp⟩

/-- An operation whose `n`-th call, counted from zero, ends as given. -/
def operation {α : Type} (ending : Nat → Ending α) : Script α where
  name := "operation"
  cue n := ⟨1, none, none, 0, none, ending (n - 1)⟩
  length := 64

/-- A check that reads no switch and never finds the client gone. -/
def staying : CheckScript := ⟨"operation", none, none, [], false⟩

/-- A trial of one run with the settings that the demonstration does not vary. -/
def trial {α : Type} (action session : String) (ending : Nat → Ending α) : Trial α where
  action := action
  session := session
  script := operation ending
  check := staying
  classifier := none
  notifier := none
  backoff := none
  runs := 1
  interference := .none

/-- What is said of a run that ended without a value. -/
def endedText (e : RunFailure) : String := "Run ended: " ++ e.text

/-- An operation that fails twice, with the standard waits. -/
def basicRetry : List Item × Nat :=
  let scene : Scene String := {
    trial := trial "fetch greeting" "demo-1" fun n =>
      if n < 2 then .failure (.ofText "transient failure") else .value "hello!"
    onCall := fun n => ["  Attempt " ++ Nat.repr n]
    onNotice := fun _ _ => []
    onSwitch := []
    epilogue := fun outcome calls _ => [match outcome with
      | .ok value => "Success after " ++ Nat.repr calls ++ " attempts: " ++ value
      | .error e => endedText e] }
  let (items, elapsed) := scene.play
  (.printed "\n=== Example 1: Basic Retry ===" :: items, elapsed)

/-- The waits of the standard table and of a Fibonacci table. -/
def backoffTables : List Item × Nat :=
  let quick := Backoff.fibonacci (.ofMillis 50) 5
  let waits := (List.range 9).map fun n =>
    "  After attempt " ++ Nat.repr (n + 1) ++ ": wait " ++
      (Backoff.standard.delay (UInt32.ofNat (n + 1))).text
  let total := ((Backoff.standard.total? 9).map Duration.text).getD Duration.overflowText
  let texts := ["\n=== Example 2: Backoff Tables ===", "Default table:"] ++ waits ++
    ["  Total for 9 failures: " ++ total, "Fibonacci table in 50ms steps:"] ++
    quick.waits.map (fun wait => "  " ++ wait.text) ++
    ["  Saturates at " ++ quick.lastWait.text]
  (texts.map .printed, 0)

/-- Failures that are worth another attempt, and one that is not. -/
def classification : List Item × Nat :=
  let api (ending : Nat → Ending String) : Trial String :=
    { trial "call api" "demo-3" ending with
      classifier := some (.verdict isTransient) }
  let recoverable : Scene String := {
    trial := { api fun
      | 0 => .failure (failedRequest (.serverError 503))
      | 1 => .failure (failedRequest .timeout)
      | _ => .value "\x7b \"status\": \"ok\" \x7d" with
      backoff := some (millis 100 [200]) }
    onCall := fun n => ["  HTTP request attempt " ++ Nat.repr n]
    onNotice := fun _ _ => []
    onSwitch := []
    epilogue := fun outcome _ _ => [match outcome with
      | .ok body => "\nResponse: " ++ body
      | .error e => "\nRequest failed: " ++ e.text] }
  let fatal : Scene String := {
    trial := api fun _ => .failure (failedRequest (.clientError 400))
    onCall := fun _ => ["  HTTP request attempt"]
    onNotice := fun _ _ => []
    onSwitch := []
    epilogue := fun outcome calls _ => [match outcome with
      | .ok body => "\nResponse: " ++ body
      | .error e => "\nRequest failed (no retries for client error): " ++ e.text,
      "Total attempts: " ++ Nat.repr calls] }
  let (first, firstTime) := recoverable.play
  let (second, secondTime) := fatal.play
  (.printed "\n=== Example 3: Classification ===" :: first ++
    .printed "\n--- Client Error (should NOT retry) ---" :: second, firstTime + secondTime)

def noticing : List Item × Nat :=
  let scene : Scene Unit := {
    trial := { trial "refresh token" "demo-4" (fun n =>
        if n < 3 then .failure (failedRequest .timeout) else .value ()) with
      backoff := some (millis 50 [])
      notifier := some ⟨"notifier", none, none, [], .other⟩ }
    onCall := fun _ => []
    onNotice := fun n cause => ["  [notifier] failure " ++ Nat.repr n ++ ": " ++ cause.text]
    onSwitch := []
    epilogue := fun outcome _ notices =>
      ["Outcome: " ++ (if outcome.isOk then "true" else "false") ++ " after " ++
        Nat.repr notices ++ " failures"] }
  let (items, elapsed) := scene.play
  (.printed "\n=== Example 4: Notifier ===" :: items, elapsed)

/-- A client that goes away while its run waits. -/
def cancellation : List Item × Nat :=
  let scene : Scene Unit := {
    trial := { trial "sync inbox" "demo-5" (fun _ =>
        .failure (failedRequest (.serverError 502))) with
      check := { staying with switch := some "destroyed" }
      backoff := some (millis 100 [])
      interference := .cancelAfter (.ofMillis 250) (some "destroyed") }
    onCall := fun n => ["  Sync attempt " ++ Nat.repr n]
    onNotice := fun _ _ => []
    onSwitch := ["  Destroying client"]
    epilogue := fun outcome calls _ => [match outcome with
      | .ok () => "Unexpected success"
      | .error e => endedText e,
      "Total attempts: " ++ Nat.repr calls] }
  let (items, elapsed) := scene.play
  (.printed "\n=== Example 5: Cancellation ===" :: items, elapsed)

/-- The examples in order: what each shows, and how much time it takes. -/
def examples : List (List Item × Nat) :=
  [basicRetry, backoffTables, classification, noticing, cancellation]

def rule : String := "======================================"

def all : List Item × Nat :=
  (([rule, "       Retry Patterns Example         ", rule].map .printed) ++
    examples.flatMap Prod.fst ++
    (["\n" ++ rule, "           Examples Complete           ", rule].map .printed),
    (examples.map Prod.snd).foldr (· + ·) 0)

end Reattempt.Demo
