import Reattempt.Proofs.Run.Drive

/-! # The ledger of a run

Which entries a run writes with each of its acts, given apart from the computation, and the proof
that the notes of a driven ticket are such a ledger. -/

namespace Reattempt

variable {σ φ α : Type}

/-- The attempt to which the acts of a phase belong. -/
def Phase.number : Phase φ α → Nat
  | unstarted => 0
  | waiting n | cleared n | running n _ | failed n _ | reported n _ | accepted n | decided n _
  | finished n _ => n

namespace Config

/-- The spans of an attempt of a run that was started in the given spans. -/
def spansAt (c : Config σ φ α) (parent : List Log.Span) (n : Nat) : List Log.Span :=
  parent ++ [.attempt c.session c.action (.ofNat n)]

/-- What a run writes with an act that it makes in a phase. -/
def writes (c : Config σ φ α) : Phase φ α → Act α → List Log.Event
  | _, .checked (.returned false) => [.starting]
  | _, .checked (.returned true) => [.clientGone]
  | _, .checked (.panicked payload) =>
    [.checkPanicked (Failure.ofPayload payload).text, .clientGone]
  | _, .polled (some (.returned (.ok _))) => [.succeeded]
  | _, .notified _ (.panicked payload) =>
    [.notifierPanicked (Failure.ofPayload payload).text payload.message]
  | .reported n f, .classified _ (.returned true) =>
    [.failed c.session c.action f.text,
      .waiting c.session c.action (c.backoff.delay (.ofNat n))]
  | .reported _ f, .classified _ (.returned false) =>
    [.permanentlyFailed c.session c.action f.text]
  | .reported _ f, .classified _ (.panicked payload) =>
    [.classifierPanicked (Failure.ofPayload payload).text,
      .permanentlyFailed c.session c.action f.text]
  | _, _ => []

/-- The notes that a run makes with an act: the act, and what it writes in the spans of its
attempt. Last may stand that nobody was there to be told the outcome. -/
inductive Noting (c : Config σ φ α) (parent : List Log.Span) (p : Phase φ α) :
    Act α → List (Note α) → Prop where
  | usual (a : Act α) : Noting c parent p a
      (.act a :: (c.writes p a).map fun event => .log ⟨event, c.spansAt parent p.number⟩)
  | unheard (outcome : Outcome α) : Noting c parent p (.settled outcome)
      [.act (.settled outcome), .log ⟨.handleDropped, c.spansAt parent p.number⟩]

/-- A path together with the notes that are made on it. -/
inductive Ledger (c : Config σ φ α) (parent : List Log.Span) :
    Phase φ α → List (Moment σ α) → List (Note α) → Phase φ α → Prop where
  | nil (p) : Ledger c parent p [] [] p
  | cons {p q r m ms notes rest} (h : c.Rule p m q) (hn : c.Noting parent p m.act notes)
      (ht : Ledger c parent q ms rest r) : Ledger c parent p (m :: ms) (notes ++ rest) r

variable {c : Config σ φ α} {parent : List Log.Span} {p q r : Phase φ α} {m : Moment σ α}
  {ms ns : List (Moment σ α)} {notes rest : List (Note α)}

theorem Ledger.path (h : c.Ledger parent p ms notes q) : c.Path p ms q := by
  induction h with
  | nil p => exact .nil p
  | cons hr _ _ ih => exact .cons hr ih

theorem Ledger.append (h : c.Ledger parent p ms notes q) (k : c.Ledger parent q ns rest r) :
    c.Ledger parent p (ms ++ ns) (notes ++ rest) r := by
  induction h with
  | nil => exact k
  | cons hr hn _ ih =>
      rw [List.append_assoc]
      exact .cons hr hn (ih k)

/-- Whatever is noted with an act is noted after it and in the spans of its attempt. -/
theorem Noting.exists_events {a : Act α} (h : c.Noting parent p a notes) :
    ∃ events : List Log.Event, notes =
      .act a :: events.map fun event => .log ⟨event, c.spansAt parent p.number⟩ := by
  cases h with
  | usual a => exact ⟨_, rfl⟩
  | unheard outcome => exact ⟨[.handleDropped], rfl⟩

theorem Noting.acts {a : Act α} (h : c.Noting parent p a notes) :
    notes.filterMap Note.act? = [a] := by
  obtain ⟨events, rfl⟩ := h.exists_events
  simp [Note.act?, List.filterMap_map, Function.comp_def]

theorem Ledger.acts (h : c.Ledger parent p ms notes q) :
    notes.filterMap Note.act? = ms.map Moment.act := by
  induction h with
  | nil => rfl
  | cons _ hn _ ih => rw [List.filterMap_append, hn.acts, ih, List.map_cons, List.singleton_append]

theorem Ledger.single (h : c.Rule p m q) (hn : c.Noting parent p m.act notes) :
    c.Ledger parent p [m] notes q := by
  simpa using Ledger.cons h hn (.nil q)

/-! ## A path leads to one phase only -/

theorem Rule.unique (h : c.Rule p m q) (k : c.Rule p m r) : q = r := by
  cases h with
  | submit s => cases k; rfl
  | pass h =>
      cases k with
      | pass _ => rfl
      | stop _ hne => exact absurd rfl hne
  | stop h hne =>
      cases k with
      | pass _ => exact absurd rfl hne
      | stop _ _ => rfl
  | begin h =>
      cases k with
      | begin h' =>
          rw [h] at h'
          cases h'
          rfl
  | refuse h => cases k; rfl
  | suspend h =>
      cases k with
      | suspend h' =>
          rw [h] at h'
          cases h'
          rfl
  | finish h => cases k; rfl
  | notify hn h => cases k; rfl
  | accept h =>
      cases k with
      | accept _ => rfl
      | reject _ hne => exact absurd rfl hne
  | reject h hne =>
      cases k with
      | accept _ => exact absurd rfl hne
      | reject _ _ => rfl
  | request s => cases k; rfl
  | settle s => cases k; rfl

theorem Path.unique (h : c.Path p ms q) (k : c.Path p ms r) : q = r := by
  induction h with
  | nil => cases k; rfl
  | cons hr _ ih =>
      cases k with
      | cons hr' ht' =>
          obtain rfl := hr.unique hr'
          exact ih ht'

/-! ## The notes of an attempt -/

variable (c parent) (n : Nat) (s : σ)

theorem verdict_ledger (f : Failure) :
    let told := (c.verdict (.ofNat n) f).run (c.spansAt parent n) s
    c.Ledger parent (.reported n f) (c.judgeTrail f s) told.notes (told.value.phase n) := by
  rw [run_verdict, judgeTrail]
  rcases h : (c.classifier.judge f.bare).run s with ⟨(_ | _) | payload, t⟩
  · exact .single (.reject h (by simp)) (.usual _)
  · exact .single (.accept h) (.usual _)
  · exact .single (.reject h (by simp)) (.usual _)

theorem fail_ledger (f : Failure) :
    let told := (c.fail (.ofNat n) f).run (c.spansAt parent n) s
    c.Ledger parent (c.afterFailure n f) (c.failTrail f s) told.notes (told.value.phase n) := by
  rw [fail_eq, Noted.run_bind, run_report]
  cases hn : c.notifier with
  | none =>
      simp only [afterFailure, failTrail, hn, List.nil_append]
      exact c.verdict_ledger parent n s f
  | some notifier =>
      simp only [afterFailure, failTrail, hn]
      rcases h : (notifier.consumer f.bare).run s with ⟨_ | payload, t⟩
      · exact .cons (.notify hn h) (.usual _) (c.verdict_ledger parent n t f)
      · exact .cons (.notify hn h) (.usual _) (c.verdict_ledger parent n t f)

theorem resume_ledger (operation : φ) :
    let told := (c.resume (.ofNat n) operation).run (c.spansAt parent n) s
    c.Ledger parent (.running n operation) (c.resumeTrail operation s) told.notes
      (told.value.phase n) := by
  simp only [resume, Noted.run_bind, Noted.run_ask, resumeTrail]
  rcases h : (c.operation.poll operation).run s with ⟨⟨next, pause⟩ | ((f | value) | payload), t⟩
  · exact .single (.suspend h) (.usual _)
  · exact .cons (.finish h) (.usual _) (c.fail_ledger parent n t f)
  · exact .single (.finish h) (.usual _)
  · exact .cons (.finish h) (.usual _) (c.fail_ledger parent n t _)

theorem begin_ledger :
    let told := (c.begin (.ofNat n)).run (c.spansAt parent n) s
    c.Ledger parent (.cleared n) (c.callTrail s) told.notes (told.value.phase n) := by
  simp only [begin, Noted.run_bind, Noted.run_ask, callTrail]
  rcases h : c.operation.call.run s with ⟨operation | payload, t⟩
  · exact .cons (.begin h) (.usual _) (c.resume_ledger parent n t operation)
  · exact .cons (.refuse h) (.usual _) (c.fail_ledger parent n t _)

theorem start_ledger :
    let told := (c.start (.ofNat n)).run (c.spansAt parent n) s
    c.Ledger parent (.waiting n) (c.startTrail s) told.notes (told.value.phase n) := by
  rw [run_start]
  simp only [startTrail]
  rcases h : c.check.poll.run s with ⟨(_ | _) | payload, t⟩
  · exact .cons (.pass h) (.usual _) (c.begin_ledger parent n t)
  · exact .single (.stop h (by simp)) (.usual _)
  · exact .single (.stop h (by simp)) (.usual _)

/-- The attempt of a ticket is that of the phase in which its run rests. -/
theorem proceed_ledger {r : Nat} {t : Ticket φ} (h : p.ticket? r = some t) :
    let told := (c.proceed t.attempt t.stage).run (c.spansAt parent p.number) s
    t.attempt = .ofNat p.number ∧
      c.Ledger parent p (c.proceedTrail t.stage s) told.notes (told.value.phase p.number) ∧
      ∀ d, told.value = .retry d → d = c.backoff.delay (.ofNat p.number) := by
  cases p with
  | waiting n =>
      cases h
      exact ⟨rfl, c.start_ledger parent n s, (c.start_traced _ s n).delay⟩
  | running n operation =>
      cases h
      exact ⟨rfl, c.resume_ledger parent n s operation, (c.resume_traced _ s n operation).delay⟩
  | _ => cases h

end Config

/-! ## The notes of a driven ticket -/

namespace Roster

/-- The notes of a run after an attempt that was driven as far as it goes. -/
def closingNotes (c : Roster σ φ α) (r : Nat) (path : List Log.Span) : Step φ α → List (Note α)
  | .suspended _ _ => []
  | .settled outcome => .act (.settled outcome) :: c.unheard r path
  | .retry delay => [.act (.requested delay)]

theorem closing_ledger {c : Config σ φ α} {parent : List Log.Span} {n : Nat} {step : Step φ α}
    (hd : ∀ d, step = .retry d → d = c.backoff.delay (.ofNat n)) (s : σ) (others : Roster σ φ α)
    (r : Nat) : c.Ledger parent (step.phase n) (step.closing s)
      (others.closingNotes r (c.spansAt parent n) step) (step.rest n) := by
  cases step with
  | suspended operation pause => exact .nil _
  | settled outcome =>
      by_cases h : others.observers r = 0
      · simp only [closingNotes, unheard, if_pos h]
        exact .single (.settle s) (.unheard outcome)
      · simp only [closingNotes, unheard, if_neg h]
        exact .single (.settle s) (.usual _)
  | retry d =>
      obtain rfl := hd d rfl
      exact .single (.request s) (.usual _)

theorem notesOf_drive {c : Roster σ φ α} {run : Run σ φ α} {t : Ticket φ}
    (hr : c.runs[t.run]? = some run) (spans : List Log.Span) :
    let told := (run.config.proceed t.attempt t.stage).run (run.path t.attempt) c.env
    notesOf t.run ((drive t).run spans c).notes = told.notes ++
      (⟨told.state, c.runs⟩ : Roster σ φ α).closingNotes t.run (run.path t.attempt) told.value := by
  rw [run_drive hr]
  dsimp only
  generalize (run.config.proceed t.attempt t.stage).run (run.path t.attempt) c.env = told
  obtain ⟨step, notes, s⟩ := told
  cases step with
  | suspended operation pause => simp only [notesOf_self, closingNotes, List.append_nil]
  | settled outcome => simp only [run_settle, notesOf_append, notesOf_self, closingNotes]
  | retry delay =>
      have hlast := notesOf_self t.run [(.act (.requested delay) : Note α)]
      rw [List.map_singleton] at hlast
      simp only [notesOf_append, notesOf_self, hlast, closingNotes]

theorem drive_ledger {c : Roster σ φ α} {r : Nat} {run : Run σ φ α} {p : Phase φ α} {t : Ticket φ}
    (hr : c.runs[r]? = some run) (hp : p.ticket? r = some t) (spans : List Log.Span) :
    ∃ q, run.config.Ledger run.parent p (run.trail t c.env)
      (notesOf r ((drive t).run spans c).notes) q := by
  obtain rfl := Phase.run_of_ticket? hp
  obtain ⟨hn, hl, hd⟩ := run.config.proceed_ledger run.parent c.env hp
  have hpath : run.config.spansAt run.parent p.number = run.path t.attempt := by
    rw [Run.path, hn]
    rfl
  rw [notesOf_drive hr, Run.trail, ← hpath]
  exact ⟨_, hl.append (closing_ledger hd _ _ _)⟩

end Roster

end Reattempt
