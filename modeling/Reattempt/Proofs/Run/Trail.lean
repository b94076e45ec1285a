import Reattempt.Proofs.Run.Invariants

/-! # What an attempt does

The acts of an attempt, listed with the states around them, and the proof that they are those of
the computation and follow the rules. -/

namespace Reattempt

/-- The spans of an attempt that starts, if a note says that one does. -/
def Note.start? {α : Type} : Note α → Option (List Log.Span)
  | log ⟨.starting, path⟩ => some path
  | _ => none

@[simp] theorem Note.start?_act {α : Type} (a : Act α) : (Note.act a).start? = none := rfl

def Told.acts {σ α β : Type} (told : Told (Note α) σ β) : List (Act α) :=
  told.notes.filterMap Note.act?

def Told.starts {σ α β : Type} (told : Told (Note α) σ β) : List (List Log.Span) :=
  told.notes.filterMap Note.start?

/-- Moments that follow each other directly, from one state to another. -/
def Linked {σ α : Type} : σ → List (Moment σ α) → σ → Prop
  | s, [], t => s = t
  | s, m :: ms, t => m.before = s ∧ Linked m.after ms t

theorem Linked.append {σ α : Type} {s t u : σ} {ms ns : List (Moment σ α)}
    (h : Linked s ms t) (k : Linked t ns u) : Linked s (ms ++ ns) u := by
  induction ms generalizing s with
  | nil =>
      cases h
      exact k
  | cons m ms ih => exact ⟨h.1, ih h.2⟩

/-- Where an attempt stands that was driven as far as it goes. -/
def Step.phase {φ α : Type} (n : Nat) : Step φ α → Phase φ α
  | .suspended operation _ => .running n operation
  | .settled outcome => .decided n outcome
  | .retry _ => .accepted n

namespace Config

variable {σ φ α : Type}

/-! ## The acts of an attempt -/

def judgeTrail (c : Config σ φ α) (failure : Failure) (s : σ) : List (Moment σ α) :=
  let (reply, t) := (c.classifier.judge failure.bare).run s
  [⟨s, .classified failure.bare reply, t⟩]

def failTrail (c : Config σ φ α) (failure : Failure) (s : σ) : List (Moment σ α) :=
  match c.notifier with
  | none => c.judgeTrail failure s
  | some notifier =>
    let (reply, t) := (notifier.consumer failure.bare).run s
    ⟨s, .notified failure.bare reply, t⟩ :: c.judgeTrail failure t

/-- Polling the operation, and what follows if it has failed. -/
def resumeTrail (c : Config σ φ α) (operation : φ) (s : σ) : List (Moment σ α) :=
  let (progress, t) := (c.operation.poll operation).run s
  ⟨s, pollAct progress, t⟩ :: match progress with
    | .done (.returned (.error failure)) => c.failTrail failure t
    | .done (.panicked payload) => c.failTrail (.completion (.ofPayload payload)) t
    | _ => []

def callTrail (c : Config σ φ α) (s : σ) : List (Moment σ α) :=
  let (reply, t) := c.operation.call.run s
  ⟨s, .called reply.erase, t⟩ :: match reply with
    | .returned operation => c.resumeTrail operation t
    | .panicked payload => c.failTrail (.ofPayload payload) t

/-- Polling the check, and what follows if it does not stop the run. -/
def startTrail (c : Config σ φ α) (s : σ) : List (Moment σ α) :=
  let (reply, t) := c.check.poll.run s
  ⟨s, .checked reply, t⟩ :: match reply with
    | .returned false => c.callTrail t
    | _ => []

theorem passes_failTrail (c : Config σ φ α) (f : Failure) (s : σ) :
    ((c.failTrail f s).map Moment.act).countP Act.passes = 0 := by
  unfold failTrail
  split <;> rfl

theorem passes_resumeTrail (c : Config σ φ α) (operation : φ) (s : σ) :
    ((c.resumeTrail operation s).map Moment.act).countP Act.passes = 0 := by
  unfold resumeTrail
  rcases (c.operation.poll operation).run s with ⟨⟨next, pause⟩ | ((f | value) | payload), t⟩
  · rfl
  · exact c.passes_failTrail f t
  · rfl
  · exact c.passes_failTrail _ t

theorem passes_startTrail (c : Config σ φ α) (s : σ) :
    ((c.startTrail s).map Moment.act).countP Act.passes ≤ 1 := by
  unfold startTrail
  rcases c.check.poll.run s with ⟨(_ | _) | payload, t⟩
  · have hcall : ((c.callTrail t).map Moment.act).countP Act.passes = 0 := by
      unfold callTrail
      rcases c.operation.call.run t with ⟨operation | payload, u⟩
      · exact c.passes_resumeTrail operation u
      · exact c.passes_failTrail _ u
    simp [List.countP_cons, hcall, Act.passes]
  · exact Nat.zero_le _
  · exact Nat.zero_le _

/-! ## Its computation, part by part

The parts of an attempt are named like those of its trail. -/

/-- What an attempt comes to once the notifier has been told. -/
def verdict (c : Config σ φ α) (attempt : UInt32) (failure : Failure) :
    Noted (Note α) σ (Step φ α) := do
  if ← c.judge failure.bare then
    Noted.log (.failed c.session c.action failure.text)
    Noted.log (.waiting c.session c.action (c.backoff.delay attempt))
    pure (.retry (c.backoff.delay attempt))
  else
    Noted.log (.permanentlyFailed c.session c.action failure.text)
    pure (.settled (.error (.fatal failure)))

/-- What an attempt comes to once its check has passed. -/
def begin (c : Config σ φ α) (attempt : UInt32) : Noted (Note α) σ (Step φ α) := do
  match ← Noted.ask c.operation.call (fun reply => .act (.called reply.erase)) with
  | .returned operation => c.resume attempt operation
  | .panicked payload => c.fail attempt (Failure.ofPayload payload)

variable (c : Config σ φ α) (attempt : UInt32) (path : List Log.Span) (s : σ)

theorem run_isCancelled : c.isCancelled.run path s =
    match c.check.poll.run s with
    | (.returned gone, t) => ⟨gone, [.act (.checked (.returned gone))], t⟩
    | (.panicked payload, t) =>
      ⟨true, [.act (.checked (.panicked payload)),
        .log ⟨.checkPanicked (Failure.ofPayload payload).text, path⟩], t⟩ := by
  rcases h : c.check.poll.run s with ⟨_ | _, t⟩ <;> simp [isCancelled, h]

theorem run_report (cause : Failure) : (c.report cause).run path s =
    match c.notifier with
    | none => ⟨(), [], s⟩
    | some notifier =>
      match (notifier.consumer cause).run s with
      | (.returned (), t) => ⟨(), [.act (.notified cause (.returned ()))], t⟩
      | (.panicked payload, t) =>
        ⟨(), [.act (.notified cause (.panicked payload)),
          .log ⟨.notifierPanicked (Failure.ofPayload payload).text payload.message, path⟩], t⟩ := by
  cases hn : c.notifier with
  | none => simp [report, hn]
  | some notifier =>
      rcases h : (notifier.consumer cause).run s with ⟨_ | _, t⟩ <;>
        simp [report, hn, Notifier.notify, h]

theorem run_judge (cause : Failure) : (c.judge cause).run path s =
    match (c.classifier.judge cause).run s with
    | (.returned verdict, t) => ⟨verdict, [.act (.classified cause (.returned verdict))], t⟩
    | (.panicked payload, t) =>
      ⟨false, [.act (.classified cause (.panicked payload)),
        .log ⟨.classifierPanicked (Failure.ofPayload payload).text, path⟩], t⟩ := by
  rcases h : (c.classifier.judge cause).run s with ⟨_ | _, t⟩ <;> simp [judge, h]

theorem run_verdict (f : Failure) : (c.verdict attempt f).run path s =
    match (c.classifier.judge f.bare).run s with
    | (.returned true, t) =>
      ⟨.retry (c.backoff.delay attempt), [.act (.classified f.bare (.returned true)),
        .log ⟨.failed c.session c.action f.text, path⟩,
        .log ⟨.waiting c.session c.action (c.backoff.delay attempt), path⟩], t⟩
    | (.returned false, t) =>
      ⟨.settled (.error (.fatal f)), [.act (.classified f.bare (.returned false)),
        .log ⟨.permanentlyFailed c.session c.action f.text, path⟩], t⟩
    | (.panicked payload, t) =>
      ⟨.settled (.error (.fatal f)), [.act (.classified f.bare (.panicked payload)),
        .log ⟨.classifierPanicked (Failure.ofPayload payload).text, path⟩,
        .log ⟨.permanentlyFailed c.session c.action f.text, path⟩], t⟩ := by
  rw [verdict, Noted.run_bind, run_judge]
  rcases h : (c.classifier.judge f.bare).run s with ⟨(_ | _) | _, t⟩ <;> simp

theorem fail_eq (f : Failure) :
    c.fail attempt f = (c.report f.bare >>= fun _ => c.verdict attempt f) := rfl

theorem start_eq : c.start attempt = (c.isCancelled >>= fun gone =>
    if gone then
      Noted.log .clientGone >>= fun _ => pure (.settled (.error (.cancelled c.session)))
    else Noted.log .starting >>= fun _ => c.begin attempt) := rfl

theorem run_start : (c.start attempt).run path s =
    match c.check.poll.run s with
    | (.returned false, t) =>
      let rest := (c.begin attempt).run path t
      ⟨rest.value, [.act (.checked (.returned false)), .log ⟨.starting, path⟩] ++ rest.notes,
        rest.state⟩
    | (.returned true, t) =>
      ⟨.settled (.error (.cancelled c.session)),
        [.act (.checked (.returned true)), .log ⟨.clientGone, path⟩], t⟩
    | (.panicked payload, t) =>
      ⟨.settled (.error (.cancelled c.session)),
        [.act (.checked (.panicked payload)),
          .log ⟨.checkPanicked (Failure.ofPayload payload).text, path⟩, .log ⟨.clientGone, path⟩],
        t⟩ := by
  rw [start_eq, Noted.run_bind, run_isCancelled]
  rcases h : c.check.poll.run s with ⟨(_ | _) | _, t⟩ <;> simp

/-! ## The trail is that of the computation -/

/-- What a computation does from a phase: its acts are those of the given moments, which follow
each other and the rules, and lead where its result says. For each check that passes it says that
an attempt starts. -/
structure Traced (n : Nat) (p : Phase φ α) (ms : List (Moment σ α))
    (told : Told (Note α) σ (Step φ α)) : Prop where
  acts : told.acts = ms.map Moment.act
  starts : told.starts = List.replicate ((ms.map Moment.act).countP Act.passes) path
  linked : Linked s ms told.state
  path : c.Path p ms (told.value.phase n)
  delay : ∀ d, told.value = .retry d → d = c.backoff.delay (.ofNat n)

variable {c path s} {n : Nat} {p q : Phase φ α} {m : Moment σ α} {ms : List (Moment σ α)}
  {told : Told (Note α) σ (Step φ α)} {notes : List (Note α)}

theorem Traced.cons (h : c.Traced path m.after n q ms told) (hm : m.before = s)
    (hr : c.Rule p m q) (hn : notes.filterMap Note.act? = [m.act])
    (hs : notes.filterMap Note.start? = List.replicate m.act.passes.toNat path) :
    c.Traced path s n p (m :: ms) ⟨told.value, notes ++ told.notes, told.state⟩ where
  acts := by
    have ha := h.acts
    simp only [Told.acts] at ha
    simp [Told.acts, hn, ha]
  starts := by
    have ha := h.starts
    simp only [Told.starts] at ha
    simp only [Told.starts, List.filterMap_append, hs, ha, List.replicate_append_replicate,
      List.map_cons, Act.countP_cons, Nat.add_comm]
  linked := ⟨hm, h.linked⟩
  path := .cons hr h.path
  delay := h.delay

theorem Traced.last {step : Step φ α} (hm : m.before = s) (hr : c.Rule p m (step.phase n))
    (hn : notes.filterMap Note.act? = [m.act])
    (hs : notes.filterMap Note.start? = List.replicate m.act.passes.toNat path)
    (hd : ∀ d, step = .retry d → d = c.backoff.delay (.ofNat n)) :
    c.Traced path s n p [m] ⟨step, notes, m.after⟩ := by
  have hnil : c.Traced path m.after n (step.phase n) [] ⟨step, [], m.after⟩ :=
    ⟨rfl, rfl, rfl, .nil _, hd⟩
  simpa using hnil.cons hm hr hn hs

variable (c path s)

theorem verdict_traced (n : Nat) (f : Failure) :
    c.Traced path s n (.reported n f) (c.judgeTrail f s) ((c.verdict (.ofNat n) f).run path s) := by
  rw [run_verdict, judgeTrail]
  rcases h : (c.classifier.judge f.bare).run s with ⟨(_ | _) | payload, t⟩
  · exact .last rfl (.reject h (by simp)) rfl rfl nofun
  · exact .last rfl (.accept h) rfl rfl fun d hd => (Step.retry.inj hd).symm
  · exact .last rfl (.reject h (by simp)) rfl rfl nofun

theorem fail_traced (n : Nat) (f : Failure) :
    c.Traced path s n (c.afterFailure n f) (c.failTrail f s)
      ((c.fail (.ofNat n) f).run path s) := by
  rw [fail_eq, Noted.run_bind, run_report]
  cases hn : c.notifier with
  | none =>
      simp only [afterFailure, failTrail, hn, List.nil_append]
      exact c.verdict_traced path s n f
  | some notifier =>
      simp only [afterFailure, failTrail, hn]
      rcases h : (notifier.consumer f.bare).run s with ⟨_ | payload, t⟩
      · exact (c.verdict_traced path t n f).cons rfl (.notify hn h) rfl rfl
      · exact (c.verdict_traced path t n f).cons rfl (.notify hn h) rfl rfl

theorem resume_traced (n : Nat) (operation : φ) :
    c.Traced path s n (.running n operation) (c.resumeTrail operation s)
      ((c.resume (.ofNat n) operation).run path s) := by
  simp only [resume, Noted.run_bind, Noted.run_ask, resumeTrail]
  rcases h : (c.operation.poll operation).run s with ⟨⟨next, pause⟩ | ((f | value) | payload), t⟩
  · exact .last rfl (.suspend h) rfl rfl nofun
  · exact (c.fail_traced path t n f).cons rfl (.finish h) rfl rfl
  · exact .last rfl (.finish h) rfl rfl nofun
  · exact (c.fail_traced path t n (.completion (.ofPayload payload))).cons rfl (.finish h) rfl rfl

theorem begin_traced (n : Nat) :
    c.Traced path s n (.cleared n) (c.callTrail s) ((c.begin (.ofNat n)).run path s) := by
  simp only [begin, Noted.run_bind, Noted.run_ask, callTrail]
  rcases h : c.operation.call.run s with ⟨operation | payload, t⟩
  · exact (c.resume_traced path t n operation).cons rfl (.begin h) rfl rfl
  · exact (c.fail_traced path t n (.ofPayload payload)).cons rfl (.refuse h) rfl rfl

theorem start_traced (n : Nat) :
    c.Traced path s n (.waiting n) (c.startTrail s) ((c.start (.ofNat n)).run path s) := by
  rw [run_start]
  simp only [startTrail]
  rcases h : c.check.poll.run s with ⟨(_ | _) | payload, t⟩
  · exact (c.begin_traced path t n).cons rfl (.pass h) rfl rfl
  · exact .last rfl (.stop h (by simp)) rfl rfl nofun
  · exact .last rfl (.stop h (by simp)) rfl rfl nofun

end Config

end Reattempt
