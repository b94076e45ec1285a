import Reattempt.Proofs.Run.Drive

/-! # Runs without panics

Every panic of a run's check, operation or classifier counts as an answer. The run whose code gives
those answers makes the same moves, attempt by attempt. -/

namespace Reattempt

variable {σ φ α β : Type}

/-! ## Code that answers where it would panic -/

/-- The reply of code whose panics count as an answer. -/
def Reply.calm (answer : β) : Reply β → Reply β
  | returned b => returned b
  | panicked _ => returned answer

/-- A call that does not panic: an operation that cannot be begun is bound to fail instead. -/
def Reply.begun : Reply φ → Reply (Except Failure φ)
  | returned operation => returned (.ok operation)
  | panicked payload => returned (.error (.ofPayload payload))

/-- The end of an operation that fails where it would panic, as if that came through its
completion. -/
def Reply.ended : Reply (Except Failure α) → Reply (Except Failure α)
  | returned result => returned result
  | panicked payload => returned (.error (.completion (.ofPayload payload)))

def Progress.calm : Progress φ α → Progress (Except Failure φ) α
  | pending next pause => pending (.ok next) pause
  | done reply => done reply.ended

/-- The operation that fails where it would panic. -/
def Operation.calm (o : Operation σ φ α) : Operation σ (Except Failure φ) α where
  call := Reply.begun <$> o.call
  poll
    | .ok operation => Progress.calm <$> o.poll operation
    | .error failure => pure (.done (.returned (.error failure)))

/-- The same configuration with code that does not panic: its check says that the client is gone,
its classifier rejects, and its operation fails. The notifier is left as it is. -/
def Config.calm (c : Config σ φ α) : Config σ (Except Failure φ) α where
  action := c.action
  session := c.session
  operation := c.operation.calm
  check := ⟨Reply.calm true <$> c.check.poll⟩
  scheduler := c.scheduler
  notifier := c.notifier
  classifier := ⟨fun cause => Reply.calm false <$> c.classifier.judge cause⟩
  backoff := c.backoff

/-! ## What is done and noted instead -/

/-- What is done in place of an act. An operation that cannot be begun is begun and then fails. -/
def Act.calm : Act α → List (Act α)
  | checked reply => [checked (reply.calm true)]
  | called (.panicked payload) =>
    [called (.returned ()), polled (some (.returned (.error (.ofPayload payload))))]
  | polled (some reply) => [polled (some reply.ended)]
  | classified cause reply => [classified cause (reply.calm false)]
  | a => [a]

/-- What is noted in place of a note: the acts, and no entries about panics that do not happen. -/
def Note.calm : Note α → List (Note α)
  | act a => a.calm.map act
  | log ⟨.checkPanicked _, _⟩ => []
  | log ⟨.classifierPanicked _, _⟩ => []
  | log entry => [log entry]

def Step.calm : Step φ α → Step (Except Failure φ) α
  | suspended operation pause => suspended (.ok operation) pause
  | settled outcome => settled outcome
  | retry delay => retry delay

/-- What is left by the computation of a run that does not panic. -/
def Told.calm (told : Told (Note α) σ (Step φ α)) : Told (Note α) σ (Step (Except Failure φ) α) :=
  ⟨told.value.calm, told.notes.flatMap Note.calm, told.state⟩

namespace Config

variable (c : Config σ φ α) (attempt : UInt32) (path : List Log.Span) (s : σ)

theorem run_calm_check : c.calm.check.poll.run s =
    ((c.check.poll.run s).1.calm true, (c.check.poll.run s).2) := rfl

theorem run_calm_call : c.calm.operation.call.run s =
    ((c.operation.call.run s).1.begun, (c.operation.call.run s).2) := rfl

theorem run_calm_poll (operation : φ) : (c.calm.operation.poll (.ok operation)).run s =
    (((c.operation.poll operation).run s).1.calm, ((c.operation.poll operation).run s).2) := rfl

theorem run_calm_judge (cause : Failure) : (c.calm.classifier.judge cause).run s =
    (((c.classifier.judge cause).run s).1.calm false, ((c.classifier.judge cause).run s).2) := rfl

theorem verdict_calm (f : Failure) :
    (c.calm.verdict attempt f).run path s = ((c.verdict attempt f).run path s).calm := by
  rw [run_verdict, run_verdict, run_calm_judge]
  rcases (c.classifier.judge f.bare).run s with ⟨(_ | _) | payload, t⟩ <;> rfl

theorem report_calm (cause : Failure) :
    (c.calm.report cause).run path s = (c.report cause).run path s := rfl

theorem calm_report (cause : Failure) : ((c.report cause).run path s).notes.flatMap Note.calm =
    ((c.report cause).run path s).notes := by
  rw [run_report]
  cases hn : c.notifier with
  | none => rfl
  | some notifier =>
      rcases h : (notifier.consumer cause).run s with ⟨_ | payload, t⟩ <;> simp only [h] <;> rfl

theorem fail_calm (f : Failure) :
    (c.calm.fail attempt f).run path s = ((c.fail attempt f).run path s).calm := by
  rw [fail_eq, fail_eq, Noted.run_bind, Noted.run_bind]
  simp only [report_calm, verdict_calm, Told.calm, List.flatMap_append, calm_report]

theorem resume_calm (operation : φ) :
    (c.calm.resume attempt (.ok operation)).run path s =
      ((c.resume attempt operation).run path s).calm := by
  simp only [resume, Noted.run_bind, Noted.run_ask, run_calm_poll]
  rcases (c.operation.poll operation).run s with ⟨⟨next, pause⟩ | ((f | value) | payload), t⟩
  · rfl
  · simp only [Progress.calm, Reply.ended, fail_calm, Told.calm, List.flatMap_append]
    rfl
  · rfl
  · simp only [Progress.calm, Reply.ended, fail_calm, Told.calm, List.flatMap_append]
    rfl

/-- An operation that is bound to fail does so when it is polled first. -/
theorem resume_bound (f : Failure) : (c.calm.resume attempt (.error f)).run path s =
    let told := (c.calm.fail attempt f).run path s
    ⟨told.value, .act (.polled (some (.returned (.error f)))) :: told.notes, told.state⟩ := rfl

theorem begin_calm :
    (c.calm.begin attempt).run path s = ((c.begin attempt).run path s).calm := by
  simp only [begin, Noted.run_bind, Noted.run_ask, run_calm_call]
  rcases c.operation.call.run s with ⟨operation | payload, t⟩
  · simp only [Reply.begun, resume_calm, Told.calm, List.flatMap_append]
    rfl
  · simp only [Reply.begun, resume_bound, fail_calm, Told.calm, List.flatMap_append]
    rfl

theorem start_calm :
    (c.calm.start attempt).run path s = ((c.start attempt).run path s).calm := by
  rw [run_start, run_start, run_calm_check]
  rcases c.check.poll.run s with ⟨(_ | _) | payload, t⟩
  · simp only [Reply.calm, begin_calm, Told.calm, List.flatMap_append]
    rfl
  · rfl
  · rfl

def calmStage : Stage φ → Stage (Except Failure φ)
  | .queued => .queued
  | .underway operation => .underway (.ok operation)

theorem proceed_calm (stage : Stage φ) : (c.calm.proceed attempt (calmStage stage)).run path s =
    ((c.proceed attempt stage).run path s).calm := by
  cases stage with
  | queued => exact c.start_calm attempt path s
  | underway operation => exact c.resume_calm attempt path s operation

end Config

/-! ## A driven ticket -/

def Ticket.calm (t : Ticket φ) : Ticket (Except Failure φ) :=
  ⟨t.run, t.attempt, Config.calmStage t.stage⟩

def Driven.calm : Driven φ → Driven (Except Failure φ)
  | suspended t pause => suspended t.calm pause
  | finished => finished
  | handedOver delay t => handedOver delay t.calm

def Line.calm (line : Line α) : List (Line α) := line.note.calm.map (Line.mk line.run)

def Run.calm (run : Run σ φ α) : Run σ (Except Failure φ) α :=
  ⟨run.config.calm, run.parent, run.slot, run.observers⟩

namespace Roster

/-- The roster of the same runs without panics. -/
def calm (c : Roster σ φ α) : Roster σ (Except Failure φ) α := ⟨c.env, c.runs.map Run.calm⟩

variable (c : Roster σ φ α)

theorem flatMap_calm_lines (r : Nat) (notes : List (Note α)) :
    (notes.map (Line.mk r)).flatMap Line.calm = (notes.flatMap Note.calm).map (Line.mk r) := by
  rw [List.flatMap_map, List.map_flatMap]
  rfl

theorem getElem?_calm (r : Nat) : c.calm.runs[r]? = c.runs[r]?.map Run.calm :=
  List.getElem?_map

theorem observers_calm (r : Nat) : c.calm.observers r = c.observers r := by
  rw [observers, observers, getElem?_calm]
  cases c.runs[r]? <;> rfl

theorem outcome?_calm (r : Nat) : c.calm.outcome? r = c.outcome? r := by
  rw [outcome?, outcome?, getElem?_calm]
  cases c.runs[r]? <;> rfl

theorem modifyRun_calm (r : Nat) {f : Run σ φ α → Run σ φ α}
    {g : Run σ (Except Failure φ) α → Run σ (Except Failure φ) α}
    (h : ∀ run, (f run).calm = g run.calm) :
    c.calm.modifyRun r g = (c.modifyRun r f).calm :=
  congrArg (Roster.mk c.env) (map_modify_comm h c.runs r).symm

theorem settle_calm (r : Nat) (outcome : Outcome α) (path : List Log.Span) :
    let told := (settle r outcome).run path c
    (settle r outcome).run path c.calm =
      ⟨told.value, told.notes.flatMap Line.calm, told.state.calm⟩ := by
  have hmodify := c.modifyRun_calm r (f := fun run => { run with slot := .settled outcome })
    (g := fun run => { run with slot := .settled outcome }) fun _ => rfl
  simp only [run_settle, flatMap_calm_lines, hmodify, unheard, observers_calm]
  split <;> rfl

theorem drive_calm (t : Ticket φ) (spans : List Log.Span) :
    let told := (drive t).run spans c
    (drive t.calm).run spans c.calm =
      ⟨told.value.calm, told.notes.flatMap Line.calm, told.state.calm⟩ := by
  cases hr : c.runs[t.run]? with
  | none =>
      have hr' : c.calm.runs[t.calm.run]? = none := by
        rw [Ticket.calm, getElem?_calm, hr, Option.map_none]
      rw [run_drive_none hr, run_drive_none hr']
      rfl
  | some run =>
      have hr' : c.calm.runs[t.calm.run]? = some run.calm := by
        rw [Ticket.calm, getElem?_calm, hr, Option.map_some]
      have hproceed : (run.calm.config.proceed t.calm.attempt t.calm.stage).run
          (run.calm.path t.calm.attempt) c.calm.env =
            ((run.config.proceed t.attempt t.stage).run (run.path t.attempt) c.env).calm :=
        run.config.proceed_calm t.attempt (run.path t.attempt) c.env t.stage
      rw [run_drive hr, run_drive hr']
      dsimp only
      rw [hproceed]
      generalize (run.config.proceed t.attempt t.stage).run _ _ = told
      obtain ⟨step, notes, s⟩ := told
      cases step with
      | suspended operation pause => simp only [Told.calm, Step.calm, flatMap_calm_lines]; rfl
      | settled outcome =>
          have hsettle : (settle t.calm.run outcome).run (run.calm.path t.calm.attempt)
              ⟨s, c.calm.runs⟩ = _ := settle_calm ⟨s, c.runs⟩ t.run outcome (run.path t.attempt)
          simp only [Told.calm, Step.calm, hsettle, List.flatMap_append, flatMap_calm_lines]
          rfl
      | retry delay =>
          simp only [Told.calm, Step.calm, List.flatMap_append, flatMap_calm_lines]
          rfl

end Roster

end Reattempt
