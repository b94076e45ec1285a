import Reattempt.Proofs.Run.Trail

/-! # Launching a run and driving its ticket

A ticket at rest is driven from one rest to the next: the run follows the rules in between, and
what comes back is the ticket of where it stands then, or none when it has settled. -/

namespace Reattempt

variable {σ φ α : Type}

/-- The ticket that driving gave back, if the run has not settled. -/
def Driven.ticket? : Driven φ → Option (Ticket φ)
  | suspended ticket _ => some ticket
  | finished => none
  | handedOver _ ticket => some ticket

namespace Step

/-- What a run does after an attempt that was driven as far as it goes. -/
def closing (s : σ) : Step φ α → List (Moment σ α)
  | suspended _ _ => []
  | settled outcome => [⟨s, .settled outcome, s⟩]
  | retry delay => [⟨s, .requested delay, s⟩]

def rest (n : Nat) : Step φ α → Phase φ α
  | suspended operation _ => .running n operation
  | settled outcome => .finished n outcome
  | retry _ => .waiting (n + 1)

/-- What becomes of the ticket of an attempt that was driven as far as it goes. -/
def driven (t : Ticket φ) : Step φ α → Driven φ
  | suspended operation pause => .suspended { t with stage := .underway operation } pause
  | settled _ => .finished
  | retry delay => .handedOver delay ⟨t.run, t.attempt + 1, .queued⟩

theorem atRest_rest (n : Nat) (step : Step φ α) : (step.rest n).AtRest := by
  cases step <;> trivial

theorem path_closing {c : Config σ φ α} {n : Nat} {step : Step φ α} (s : σ)
    (h : ∀ d, step = .retry d → d = c.backoff.delay (.ofNat n)) :
    c.Path (step.phase n) (step.closing s) (step.rest n) := by
  cases step with
  | suspended operation pause => exact .nil _
  | settled outcome => exact .single (.settle s)
  | retry d =>
      cases h d rfl
      exact .single (.request s)

theorem passes_closing (s : σ) (step : Step φ α) :
    ((step.closing s).map Moment.act).countP Act.passes = 0 := by
  cases step <;> rfl

theorem linked_closing (s : σ) (step : Step φ α) : Linked s (step.closing s) s := by
  cases step <;> simp [closing, Linked]

end Step

namespace Config

/-- The attempt of a ticket, from where it stands. -/
def proceed (c : Config σ φ α) (attempt : UInt32) : Stage φ → Noted (Note α) σ (Step φ α)
  | .queued => c.start attempt
  | .underway operation => c.resume attempt operation

def proceedTrail (c : Config σ φ α) : Stage φ → σ → List (Moment σ α)
  | .queued => c.startTrail
  | .underway operation => c.resumeTrail operation

theorem proceed_traced (c : Config σ φ α) {p : Phase φ α} {r : Nat} {t : Ticket φ}
    (h : p.ticket? r = some t) (path : List Log.Span) (s : σ) :
    ∃ n, t.attempt = .ofNat n ∧ c.Traced path s n p (c.proceedTrail t.stage s)
      ((c.proceed t.attempt t.stage).run path s) := by
  cases p with
  | waiting n =>
      cases h
      exact ⟨n, rfl, c.start_traced path s n⟩
  | running n operation =>
      cases h
      exact ⟨n, rfl, c.resume_traced path s n operation⟩
  | _ => cases h

end Config

/-- What a run does when its ticket is driven. -/
def Run.trail (run : Run σ φ α) (t : Ticket φ) (s : σ) : List (Moment σ α) :=
  let told := (run.config.proceed t.attempt t.stage).run (run.path t.attempt) s
  run.config.proceedTrail t.stage s ++ told.value.closing told.state

theorem Run.trail_ne_nil (run : Run σ φ α) (t : Ticket φ) (s : σ) : run.trail t s ≠ [] := by
  refine List.append_ne_nil_of_left_ne_nil ?_ _
  cases t.stage with
  | queued => exact List.cons_ne_nil _ _
  | underway operation => exact List.cons_ne_nil _ _

theorem Run.passes_trail (run : Run σ φ α) (t : Ticket φ) (s : σ) :
    ((run.trail t s).map Moment.act).countP Act.passes =
      ((run.config.proceedTrail t.stage s).map Moment.act).countP Act.passes := by
  rw [Run.trail, List.map_append, List.countP_append, Step.passes_closing, Nat.add_zero]

theorem Run.trail_of_passes (run : Run σ φ α) {r : Nat} {attempt : UInt32} {s : σ}
    (h : (run.config.check.poll.run s).1 = .returned false) :
    ∃ reply rest, (run.trail ⟨r, attempt, .queued⟩ s).map Moment.act =
      .checked (.returned false) :: .called reply :: rest := by
  rcases hp : run.config.check.poll.run s with ⟨reply, t⟩
  rw [hp] at h
  cases h
  have hstart : run.config.startTrail s =
      ⟨s, .checked (.returned false), t⟩ :: run.config.callTrail t := by
    rw [Config.startTrail, hp]
  rw [Run.trail, Config.proceedTrail, hstart]
  exact ⟨_, _, rfl⟩

namespace Roster

def notesOf (r : Nat) (lines : List (Line α)) : List (Note α) :=
  lines.filterMap fun line => if line.run = r then some line.note else none

theorem notesOf_append (r : Nat) (lines others : List (Line α)) :
    notesOf r (lines ++ others) = notesOf r lines ++ notesOf r others :=
  List.filterMap_append

theorem notesOf_self (r : Nat) (notes : List (Note α)) :
    notesOf r (notes.map (Line.mk r)) = notes := by
  have hown : (fun line => if line.run = r then some line.note else none) ∘ Line.mk (α := α) r =
      some := by
    funext note
    exact if_pos rfl
  rw [notesOf, List.filterMap_map, hown, List.filterMap_some]

theorem notesOf_other {r r' : Nat} (h : r' ≠ r) (notes : List (Note α)) :
    notesOf r (notes.map (Line.mk r')) = [] := by
  rw [notesOf, List.filterMap_map, List.filterMap_eq_nil_iff]
  exact fun note _ => if_neg h

theorem run_launch (config : Config σ φ α) (spans : List Log.Span) (c : Roster σ φ α) :
    (launch config).run spans c =
      ⟨⟨c.runs.length, 1, .queued⟩, [⟨c.runs.length, .act .submitted⟩],
        c.addRun ⟨config, spans, .waiting, 1⟩⟩ := rfl

/-- What is written where nobody is left to be told an outcome. -/
def unheard (c : Roster σ φ α) (r : Nat) (path : List Log.Span) : List (Note α) :=
  if c.observers r = 0 then [.log ⟨.handleDropped, path⟩] else []

theorem filterMap_unheard {β : Type} {see : Note α → Option β} (c : Roster σ φ α) (r : Nat)
    (path : List Log.Span) (h : see (.log ⟨.handleDropped, path⟩) = none) :
    (c.unheard r path).filterMap see = [] := by
  unfold unheard
  split
  · rw [List.filterMap_cons_none h, List.filterMap_nil]
  · rfl

theorem observers_settled (c : Roster σ φ α) (r : Nat) (slot : Slot α) :
    (c.modifyRun r fun run => { run with slot := slot }).observers r = c.observers r := by
  rw [observers, observers, modifyRun, List.getElem?_modify_eq]
  cases c.runs[r]? <;> rfl

theorem run_settle (r : Nat) (outcome : Outcome α) (path : List Log.Span) (c : Roster σ φ α) :
    (settle r outcome).run path c =
      ⟨(), (.act (.settled outcome) :: c.unheard r path).map (Line.mk r),
        c.modifyRun r fun run => { run with slot := .settled outcome }⟩ := by
  have hobservers := c.observers_settled r (.settled outcome)
  by_cases h : c.observers r = 0
  · simp [settle, onEnv, unheard, hobservers, h]
  · simp [settle, unheard, hobservers, h]

/-- The contract of driving a ticket: what is told of it are the given moments of its run, which
lead from the state before to the state after, and to where the run rests. -/
structure Drives (c : Roster σ φ α) (t : Ticket φ) (run : Run σ φ α) (p : Phase φ α)
    (ms : List (Moment σ α)) (told : Told (Line α) (Roster σ φ α) (Driven φ)) (q : Phase φ α) :
    Prop where
  path : run.config.Path p ms q
  atRest : q.AtRest
  linked : Linked c.env ms told.state.env
  acts : (notesOf t.run told.notes).filterMap Note.act? = ms.map Moment.act
  starts : (notesOf t.run told.notes).filterMap Note.start? =
    List.replicate ((ms.map Moment.act).countP Act.passes) (run.path t.attempt)
  others : ∀ r ≠ t.run, notesOf r told.notes = []
  ticket : told.value.ticket? = q.ticket? t.run
  runs : told.state.runs = c.runs.set t.run { run with slot := q.slot }

theorem run_drive_none {c : Roster σ φ α} {t : Ticket φ} (hr : c.runs[t.run]? = none)
    (spans : List Log.Span) : (drive t).run spans c = ⟨.finished, [], c⟩ := by
  simp only [drive, Noted.run_bind, Noted.run_get, hr, Noted.run_pure, List.append_nil]

theorem run_drive {c : Roster σ φ α} {run : Run σ φ α} {t : Ticket φ}
    (hr : c.runs[t.run]? = some run) (spans : List Log.Span) :
    (drive t).run spans c =
      let path := run.path t.attempt
      let told := (run.config.proceed t.attempt t.stage).run path c.env
      let lines := told.notes.map (Line.mk t.run)
      let after : Roster σ φ α := ⟨told.state, c.runs⟩
      match told.value with
      | .suspended operation pause =>
        ⟨.suspended { t with stage := .underway operation } pause, lines, after⟩
      | .settled outcome =>
        let done := (settle t.run outcome).run path after
        ⟨.finished, lines ++ done.notes, done.state⟩
      | .retry delay =>
        ⟨.handedOver delay ⟨t.run, t.attempt + 1, .queued⟩,
          lines ++ [⟨t.run, .act (.requested delay)⟩], after⟩ := by
  obtain ⟨r, attempt, stage⟩ := t
  simp only [drive, Noted.run_bind, Noted.run_get, hr, Noted.run_within, onEnv, Noted.run_focus]
  cases stage with
  | queued =>
      simp only [Config.proceed]
      cases ((run.config.start attempt).run (run.path attempt) c.env).value <;> simp
  | underway operation =>
      simp only [Config.proceed]
      cases ((run.config.resume attempt operation).run (run.path attempt) c.env).value <;> simp

/-- A ticket is driven in the spans of its attempt, wherever it is driven. -/
theorem drive_spans (c : Roster σ φ α) (t : Ticket φ) (spans : List Log.Span) :
    (drive t).run spans c = (drive t).run [] c := by
  cases hr : c.runs[t.run]? with
  | none => rw [run_drive_none hr, run_drive_none hr]
  | some run => rw [run_drive hr, run_drive hr]

/-- All that is said when a ticket is driven is said of its run. -/
theorem run_of_mem_drive (c : Roster σ φ α) (t : Ticket φ) (spans : List Log.Span) :
    ∀ line ∈ ((drive t).run spans c).notes, line.run = t.run := by
  intro line h
  have hlines : ∀ notes : List (Note α), line ∈ notes.map (Line.mk t.run) → line.run = t.run := by
    rintro notes hmem
    obtain ⟨note, -, rfl⟩ := List.mem_map.mp hmem
    rfl
  cases hr : c.runs[t.run]? with
  | none =>
      rw [run_drive_none hr] at h
      exact absurd h List.not_mem_nil
  | some run =>
      rw [run_drive hr] at h
      dsimp only at h
      generalize (run.config.proceed t.attempt t.stage).run _ _ = told at h
      obtain ⟨step, notes, s⟩ := told
      cases step with
      | suspended operation pause => exact hlines _ h
      | settled outcome =>
          simp only [run_settle, List.mem_append] at h
          exact h.elim (hlines _) (hlines _)
      | retry delay =>
          simp only [List.mem_append, List.mem_singleton] at h
          obtain h | rfl := h
          · exact hlines _ h
          · rfl

/-- What is done to one run before all are looked at may be done after that. -/
theorem map_modify_comm {β : Type} {g : Run σ φ α → β} {f : Run σ φ α → Run σ φ α} {k : β → β}
    (h : ∀ run, g (f run) = k (g run)) (runs : List (Run σ φ α)) (i : Nat) :
    (runs.modify i f).map g = (runs.map g).modify i k := by
  refine List.ext_getElem? fun j => ?_
  simp only [List.getElem?_map, List.getElem?_modify]
  cases runs[j]? with
  | none => rfl
  | some run => by_cases hj : i = j <;> simp [hj, h]

theorem modify_of_getElem? {c : Roster σ φ α} {r : Nat} {run : Run σ φ α}
    (hr : c.runs[r]? = some run) (f : Run σ φ α → Run σ φ α) :
    c.runs.modify r f = c.runs.set r (f run) := by
  obtain ⟨hlt, hrun⟩ := List.getElem?_eq_some_iff.mp hr
  refine List.ext_getElem? fun i => ?_
  by_cases h : r = i
  · subst h
    simp [hlt, hrun]
  · simp [h]

theorem set_waiting {c : Roster σ φ α} {r : Nat} {run : Run σ φ α} (hr : c.runs[r]? = some run)
    (hs : run.slot = .waiting) : c.runs = c.runs.set r { run with slot := .waiting } := by
  rw [← hs]
  obtain ⟨h, rfl⟩ := List.getElem?_eq_some_iff.mp hr
  exact (List.set_getElem_self h).symm

/-- Driving follows the trail if it makes the notes of the attempt and of its closing, and leaves
the ticket and the slot of where the run rests. -/
theorem Drives.of_traced {c : Roster σ φ α} {t : Ticket φ} {n : Nat} {run : Run σ φ α}
    {p : Phase φ α} {ms : List (Moment σ α)} {told : Told (Note α) σ (Step φ α)}
    {runs : List (Run σ φ α)} (extra : List (Note α)) (value : Driven φ)
    (h : run.config.Traced (run.path t.attempt) c.env n p ms told)
    (hextra : extra.filterMap Note.act? = (told.value.closing told.state).map Moment.act)
    (hstarts : extra.filterMap Note.start? = [])
    (hticket : value.ticket? = (told.value.rest n).ticket? t.run)
    (hruns : runs = c.runs.set t.run { run with slot := (told.value.rest n).slot }) :
    c.Drives t run p (ms ++ told.value.closing told.state)
      ⟨value, told.notes.map (Line.mk t.run) ++ extra.map (Line.mk t.run), ⟨told.state, runs⟩⟩
      (told.value.rest n) where
  path := h.path.append (Step.path_closing _ h.delay)
  atRest := told.value.atRest_rest n
  linked := h.linked.append (Step.linked_closing _ _)
  acts := by
    have hacts := h.acts
    simp only [Told.acts] at hacts
    rw [notesOf_append, notesOf_self, notesOf_self, List.filterMap_append, hacts, hextra,
      List.map_append]
  starts := by
    have hs := h.starts
    simp only [Told.starts] at hs
    rw [notesOf_append, notesOf_self, notesOf_self, List.filterMap_append, hs, hstarts,
      List.map_append, List.countP_append, Step.passes_closing, Nat.add_zero, List.append_nil]
  others r hr := by
    rw [notesOf_append, notesOf_other (Ne.symm hr), notesOf_other (Ne.symm hr), List.append_nil]
  ticket := hticket
  runs := hruns

theorem value_drive {c : Roster σ φ α} {run : Run σ φ α} {t : Ticket φ}
    (hr : c.runs[t.run]? = some run) (spans : List Log.Span) : ((drive t).run spans c).value =
      ((run.config.proceed t.attempt t.stage).run (run.path t.attempt) c.env).value.driven t := by
  rw [run_drive hr]
  dsimp only
  generalize (run.config.proceed t.attempt t.stage).run (run.path t.attempt) c.env = told
  obtain ⟨step, notes, s⟩ := told
  cases step <;> rfl

/-- A ticket is driven to where the step of its attempt leads. -/
theorem drives_rest {c : Roster σ φ α} {run : Run σ φ α} {p : Phase φ α} {t : Ticket φ} {n : Nat}
    (hr : c.runs[t.run]? = some run) (hs : run.slot = .waiting) (hn : t.attempt = .ofNat n)
    (h : run.config.Traced (run.path t.attempt) c.env n p
      (run.config.proceedTrail t.stage c.env)
      ((run.config.proceed t.attempt t.stage).run (run.path t.attempt) c.env))
    (spans : List Log.Span) : c.Drives t run p (run.trail t c.env) ((drive t).run spans c)
      (((run.config.proceed t.attempt t.stage).run (run.path t.attempt) c.env).value.rest n) := by
  rw [run_drive hr]
  dsimp only [Run.trail]
  generalize (run.config.proceed t.attempt t.stage).run (run.path t.attempt) c.env = told at *
  obtain ⟨step, notes, s⟩ := told
  cases step with
  | suspended operation pause =>
      have hd := Drives.of_traced [] (.suspended { t with stage := .underway operation } pause) h
        rfl rfl (by simp [Driven.ticket?, Step.rest, Phase.ticket?, hn]) (set_waiting hr hs)
      simpa using hd
  | settled outcome =>
      simp only [run_settle]
      refine Drives.of_traced (.act (.settled outcome) :: unheard ⟨s, c.runs⟩ t.run _) _ h ?_ ?_ rfl
        (modify_of_getElem? hr _)
      · exact congrArg (List.cons _) (filterMap_unheard _ _ _ rfl)
      · exact filterMap_unheard _ _ _ rfl
  | retry delay =>
      exact Drives.of_traced [.act (.requested delay)] _ h rfl rfl
        (by simp [Driven.ticket?, Step.rest, Phase.ticket?, hn]) (set_waiting hr hs)

theorem Drives.getElem?_runs {c : Roster σ φ α} {t : Ticket φ} {run : Run σ φ α} {p q : Phase φ α}
    {ms : List (Moment σ α)} {told : Told (Line α) (Roster σ φ α) (Driven φ)}
    (h : c.Drives t run p ms told q) (hr : c.runs[t.run]? = some run) :
    told.state.runs[t.run]? = some { run with slot := q.slot } := by
  rw [h.runs]
  exact List.getElem?_set_self (List.getElem?_eq_some_iff.mp hr).1

theorem drive_drives {c : Roster σ φ α} {r : Nat} {run : Run σ φ α} {p : Phase φ α}
    {t : Ticket φ} (hr : c.runs[r]? = some run) (hs : run.slot = .waiting)
    (hp : p.ticket? r = some t) (spans : List Log.Span) :
    ∃ q, c.Drives t run p (run.trail t c.env) ((drive t).run spans c) q := by
  obtain ⟨n, hn, h⟩ := run.config.proceed_traced hp (run.path t.attempt) c.env
  obtain rfl := Phase.run_of_ticket? hp
  exact ⟨_, drives_rest hr hs hn h spans⟩

end Roster

end Reattempt
