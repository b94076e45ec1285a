import Reattempt.Proofs.Bench.Clock
import Reattempt.Proofs.Bench.Direct
import Reattempt.Proofs.Scheduler.Recorder
import Reattempt.Proofs.Time.Timetable

/-! # A run in virtual time

While a clock is paused, what is ready is polled before time moves, and time moves no further than
to the first timer. On a clock with nothing else to do, the only work of a run is then taken up at
the very time for which it was put there, so that the run keeps to its timetable. -/

namespace Reattempt

variable {σ φ α ω T : Type}

/-! ## One unit of work on the clock -/

namespace Clock

/-- There is no more than one unit of work on the clock. If there is one, it is due at the given
time, which has not passed. -/
inductive Holds : Clock ω → Option ω → Nat → Prop where
  | nothing {now due} : Holds ⟨now, [], [], []⟩ none due
  | ready {now w} : Holds ⟨now, [w], [], []⟩ (some w) now
  | timer {now due w} (h : now ≤ due) : Holds ⟨now, [], [], [(due, w)]⟩ (some w) due

variable {c after : Clock ω} {o : Option ω} {due : Nat}

theorem Holds.of_waiting (h : c.waiting = []) (due : Nat) : c.Holds none due := by
  obtain ⟨now, ready, parked, timers⟩ := c
  simp only [waiting, List.append_eq_nil_iff, List.map_eq_nil_iff] at h
  obtain ⟨⟨rfl, rfl⟩, rfl⟩ := h
  exact .nothing

theorem Holds.of_none (h : c.Holds none due) (time : Nat) : c.Holds none time := by
  cases h
  exact .nothing

theorem Holds.submit (h : c.Holds none due) (w : ω) : (c.submit w).Holds (some w) c.now := by
  cases h
  exact .ready

theorem Holds.schedule (h : c.Holds none due) (delay : Duration) (w : ω) :
    (c.schedule delay w).Holds (some w) (c.now + delay.nanos) := by
  cases h
  exact .timer (Nat.le_add_right _ _)

theorem Holds.pause (h : c.Holds none due) (length : Duration) (w : ω) :
    (c.pause length w).Holds (some w) (c.now + length.nanos) := by
  unfold Clock.pause
  split
  · next hzero =>
      rw [hzero]
      exact h.submit w
  · exact h.schedule length w

/-- Work is taken from the clock when it is due, and leaves an empty clock. -/
theorem Holds.take {w : ω} (h : c.Holds o due) (ht : c.takeReady? = some (w, after)) :
    o = some w ∧ c.now = due ∧ after.now = due ∧ after.Holds none due := by
  cases h with
  | nothing => cases ht
  | ready =>
      cases ht
      exact ⟨rfl, rfl, rfl, .nothing⟩
  | timer _ => cases ht

/-- Time that moves no further than to the first timer leaves no work behind. -/
theorem Holds.advance (h : c.Holds o due) {elapsed : Nat} (idle : c.ready = [])
    (first : ∀ timer ∈ c.timers, c.now + elapsed ≤ timer.1) :
    (c.advance elapsed).2.Holds o due := by
  cases h with
  | nothing => exact .nothing
  | ready => cases idle
  | @timer now due w _ =>
      have hle : now + elapsed ≤ due := first (due, w) List.mem_cons_self
      by_cases hdue : due ≤ now + elapsed
      · obtain rfl : due = now + elapsed := Nat.le_antisymm hdue hle
        simpa [Clock.advance, fire] using Holds.ready
      · simpa [Clock.advance, fire, hdue] using Holds.timer (w := w) hle

/-- A jump leaves no work behind, and makes ready what is there. -/
theorem Holds.jump (h : c.Holds o due) (idle : c.ready = []) :
    c.jumped.Holds o due ∧ ∀ w ∈ o, ∃ after, c.jumped.takeReady? = some (w, after) := by
  cases h with
  | nothing => exact ⟨.nothing, by simp⟩
  | ready => cases idle
  | @timer now due w _ =>
      have hjump : jump? ⟨now, [], [], [(due, w)]⟩ = some (1, ⟨due, [w], [], []⟩) := by
        simp [jump?, fire]
      rw [jumped, hjump]
      exact ⟨.ready, by rintro _ ⟨⟩; exact ⟨_, rfl⟩⟩

theorem ready_of_takeReady? (h : c.takeReady? = none) : c.ready = [] := by
  unfold takeReady? at h
  split at h
  · assumption
  · cases h

end Clock

/-! ## Punctual schedulers -/

/-- A scheduler that keeps all work. What is to be run at once is ready at once, and a delay of
whole milliseconds is over exactly when it should be. -/
def Scheduler.Punctual (s : Scheduler ω (Clock ω × T)) : Prop :=
  ∀ when w clock env, (∀ delay ∈ when.delay?, nanosPerMilli ∣ delay.nanos) →
    let (fate, after, _) := s.take when w (clock, env)
    (fate, after) = Scheduler.onClock.take when w clock

theorem Scheduler.Punctual.shared {s : Scheduler ω (Clock ω × T)} (h : s.Punctual) :
    s.shared.Punctual := h

theorem Desk.punctual_faithful : (faithful : Desk σ φ).scheduler.Punctual := fun _ _ _ _ _ => rfl

/-- In rehearsals, the schedulers that lose no work are punctual. -/
theorem Rehearsal.Mode.punctual_desk {mode : Mode} (h : mode = .faithful ∨ mode = .shared) :
    (mode.desk : Desk Scripted.Fixture (Scripted.Playing α)).scheduler.Punctual := by
  obtain rfl | rfl := h
  · exact fun _ _ _ _ _ => rfl
  · exact fun _ _ _ _ _ => rfl

/-! ## A paused clock -/

/-- What a run is said to do. -/
def Roster.actsOf (r : Nat) (lines : List (Line α)) : List (Act α) :=
  (notesOf r lines).filterMap Note.act?

namespace Bench

/-- The scheduler of a desk is punctual. -/
def PunctualAt (b : Bench σ φ α) (desk : Nat) : Prop :=
  ∃ d, b.desks[desk]? = some d ∧ d.scheduler.Punctual

/-- What may happen while the clock is paused and no other run is started. -/
inductive Paused (b : Bench σ φ α) : Action σ φ α → Prop where
  | tick : Paused b (.tick Clock.pause)
  | advance {elapsed} (idle : b.clock.ready = [])
      (first : ∀ timer ∈ b.clock.timers, b.clock.now + elapsed ≤ timer.1) :
      Paused b (.arrange fun clock => (clock.advance elapsed).2)
  | jump (idle : b.clock.ready = []) : Paused b (.arrange Clock.jumped)
  | share (run) : Paused b (.share run)
  | release (run) : Paused b (.release run)
  | outside (effect) : Paused b (.outside effect)

def PausedAll (b : Bench σ φ α) : List (Action σ φ α) → Prop
  | [] => True
  | a :: as => b.Paused a ∧ (b.perform a).2.PausedAll as

/-- What a run does in some actions, and when. How an action is performed is left open. -/
def actsAt (act : Bench σ φ α → Action σ φ α → List (Line α) × Bench σ φ α) (r : Nat)
    (b : Bench σ φ α) : List (Action σ φ α) → List (Nat × Act α)
  | [] => []
  | a :: as =>
    (Roster.actsOf r (act b a).1).map (Prod.mk b.clock.now) ++ actsAt act r (act b a).2 as

variable {b : Bench σ φ α}

/-- Behind recorders or not, a run does the same at the same times. -/
theorem actsAt_bare (r : Nat) (b : Bench σ φ α) (as : List (Action σ φ α)) :
    actsAt (performBy hand) r b.bare as = actsAt perform r b as := by
  induction as generalizing b with
  | nil => rfl
  | cons a as ih =>
      rw [actsAt, perform_bare]
      exact congrArg (_ ++ ·) (ih _)

/-- A punctual scheduler does to the clock what it is asked to, through its recorder too. -/
theorem request_punctual {desk : Nat} (h : b.PunctualAt desk) (when : Request) (w : Work σ φ)
    (hwhen : ∀ delay ∈ when.delay?, nanosPerMilli ∣ delay.nanos) :
    let asked := b.request desk when w
    asked.1 = .kept ∧ asked.2.clock = (Scheduler.onClock.take when w b.clock).2 ∧
      asked.2.roster.runs = b.roster.runs ∧ asked.2.PunctualAt desk := by
  obtain ⟨d, hd, hp⟩ := h
  have htake := hp when w b.clock b.roster.env hwhen
  rw [request_eq b hd]
  generalize d.scheduler.take when w (b.clock, b.roster.env) = taken at htake
  obtain ⟨fate, clock, env⟩ := taken
  have hkept : (Scheduler.onClock.take when w b.clock).1 = .kept := by cases when <;> rfl
  obtain rfl : fate = .kept := (congrArg Prod.fst htake).trans hkept
  refine ⟨rfl, congrArg Prod.snd htake, rfl, { d with record := d.record.add when }, ?_, hp⟩
  exact List.getElem?_set_self (List.getElem?_eq_some_iff.mp hd).1

/-! ## A run on schedule -/

/-- Where a run rests, it has kept to its timetable, and its work alone is on the clock. -/
structure OnSchedule (b : Bench σ φ α) (r : Nat) (c : Config σ φ α) (start : Nat) (d : Nat → Nat)
    (acts : List (Nat × Act α)) (p : Phase φ α) (due : Nat) : Prop where
  run : ∃ run, b.roster.runs[r]? = some run ∧ run.config = c ∧ run.slot = p.slot
  desk : b.PunctualAt c.scheduler
  whole : ∀ wait ∈ c.backoff.waits, nanosPerMilli ∣ wait.nanos
  clock : b.clock.Holds ((p.ticket? r).map Work.attempt) due
  timetable : c.Timetable start d acts p due

variable {r : Nat} {c : Config σ φ α} {start due : Nat} {d : Nat → Nat} {acts : List (Nat × Act α)}
  {p : Phase φ α}

/-- Of what a driven attempt leaves to do, the next is due when the given time has passed. -/
theorem afterDrive_punctual {desk : Nat} (hclock : b.clock.Holds none due)
    (hdesk : b.PunctualAt desk)
    (hscheduler : (b.roster.runs[r]?.map fun run => run.config.scheduler).getD 0 = desk)
    (step : Step φ α) (hwhole : ∀ delay, step = .retry delay → nanosPerMilli ∣ delay.nanos)
    (t : Ticket φ) :
    let after := b.afterDrive Clock.pause r (step.driven t)
    after.clock.Holds ((step.driven t).ticket?.map Work.attempt) (b.clock.now + step.elapsed) ∧
      after.roster.runs = b.roster.runs ∧ after.PunctualAt desk := by
  subst hscheduler
  cases step with
  | suspended operation pause => exact ⟨hclock.pause pause _, rfl, hdesk⟩
  | settled outcome => exact ⟨hclock.of_none _, rfl, hdesk⟩
  | retry delay =>
      obtain ⟨-, hafter, hruns, hstill⟩ := request_punctual hdesk (.after delay)
        (.attempt ⟨t.run, t.attempt + 1, .queued⟩) (by rintro _ ⟨⟩; exact hwhole delay rfl)
      have hnext := hclock.schedule delay (.attempt ⟨t.run, t.attempt + 1, .queued⟩)
      exact ⟨hafter ▸ hnext, hruns, hstill⟩

/-- Where work is ready, the attempt of a run on schedule takes its turn. -/
theorem OnSchedule.drive (h : b.OnSchedule r c start d acts p due) {w : Work σ φ}
    {clock : Clock (Work σ φ)} (hw : b.clock.takeReady? = some (w, clock)) :
    let performed := b.perform (.tick Clock.pause)
    Roster.actsOf r performed.1 ≠ [] ∧ ∃ d p due, performed.2.OnSchedule r c start d
      (acts ++ (Roster.actsOf r performed.1).map (Prod.mk b.clock.now)) p due := by
  obtain ⟨⟨run, hrun, rfl, hslot⟩, hdesk, hwhole, hclock, htimes⟩ := h
  obtain ⟨htaken, hnow, hnow', hempty⟩ := hclock.take hw
  obtain ⟨t, ht, rfl⟩ := Option.map_eq_some_iff.mp htaken
  obtain rfl := Phase.run_of_ticket? ht
  cases htimes with
  | finished => cases ht
  | @underway m _ spent hu kept unsettled =>
      obtain ⟨hn, htraced, hturn⟩ := hu.traced ht (run.path t.attempt) b.roster.env
      have hdelay := htraced.delay
      have hd := Roster.drives_rest hrun (hslot.trans hu.counts.1) hn htraced []
      have hvalue := Roster.value_drive hrun []
      obtain ⟨taken, htable⟩ := hu.turn kept unsettled hturn hd.path hdelay
      rw [perform_tick, hw]
      dsimp only
      generalize (run.config.proceed t.attempt t.stage).run _ _ = told at *
      generalize (Roster.drive t).run [] b.roster = driven at *
      have hlater := hd.getElem?_runs hrun
      have hafter := afterDrive_punctual (b := ⟨driven.state, clock, b.desks⟩) (r := t.run)
        (hempty.of_none clock.now) hdesk (by rw [hlater]; rfl) told.value
        (fun delay hretry => hdelay delay hretry ▸ hwhole _ (List.getElem_mem _)) t
      rw [← hvalue, hd.ticket] at hafter
      obtain ⟨hholds, hruns, hstill⟩ := hafter
      dsimp only at hholds hruns
      rw [hnow'] at hholds
      -- the turn is taken at the very time for which the work was on the clock
      rw [Roster.actsOf, hd.acts, hnow]
      exact ⟨fun hnil => run.trail_ne_nil t _ (List.map_eq_nil_iff.mp hnil), _, _, _,
        ⟨_, (congrArg (·[t.run]?) hruns).trans hlater, rfl, rfl⟩, hstill, hwhole, hholds, htable⟩

/-- Who observes which runs makes no difference to the schedule. -/
theorem OnSchedule.observed (h : b.OnSchedule r c start d acts p due) (i : Nat) (f : Nat → Nat) :
    ({ b with roster := b.roster.modifyRun i fun run =>
      { run with observers := f run.observers } }).OnSchedule r c start d acts p due := by
  obtain ⟨run, hrun, hconfig, hslot⟩ := h.run
  refine ⟨?_, h.desk, h.whole, h.clock, h.timetable⟩
  simp only [Roster.modifyRun, List.getElem?_modify, hrun]
  split
  · exact ⟨_, rfl, hconfig, hslot⟩
  · exact ⟨_, rfl, hconfig, hslot⟩

/-- What may happen while the clock is paused keeps a run on schedule. -/
theorem OnSchedule.perform (h : b.OnSchedule r c start d acts p due) {a : Action σ φ α}
    (ha : b.Paused a) :
    ∃ d p due, (b.perform a).2.OnSchedule r c start d
      (acts ++ (Roster.actsOf r (b.perform a).1).map (Prod.mk b.clock.now)) p due := by
  -- but for polling ready work, nothing is said of the run
  have hquiet : acts ++ (Roster.actsOf r []).map (Prod.mk b.clock.now) = acts :=
    List.append_nil acts
  cases ha with
  | tick =>
      cases hw : b.clock.takeReady? with
      | some taken => exact (h.drive hw).2
      | none =>
          rw [perform_tick, hw, hquiet]
          exact ⟨d, p, due, h⟩
  | advance idle first =>
      rw [Bench.perform, hquiet]
      exact ⟨d, p, due, h.run, h.desk, h.whole, h.clock.advance idle first, h.timetable⟩
  | jump idle =>
      rw [Bench.perform, hquiet]
      exact ⟨d, p, due, h.run, h.desk, h.whole, (h.clock.jump idle).1, h.timetable⟩
  | share i =>
      rw [Bench.perform, hquiet]
      exact ⟨d, p, due, h.observed i (· + 1)⟩
  | release i =>
      rw [Bench.perform, hquiet]
      exact ⟨d, p, due, h.observed i (· - 1)⟩
  | outside effect =>
      rw [Bench.perform, hquiet]
      exact ⟨d, p, due, h.run, h.desk, h.whole, h.clock, h.timetable⟩

theorem OnSchedule.play (h : b.OnSchedule r c start d acts p due) {as : List (Action σ φ α)}
    (has : b.PausedAll as) : ∃ d p due,
      (b.play as).2.OnSchedule r c start d (acts ++ actsAt Bench.perform r b as) p due := by
  induction as generalizing b d acts p due with
  | nil => exact ⟨d, p, due, (List.append_nil acts).symm ▸ h⟩
  | cons a as ih =>
      obtain ⟨d, p, due, hstep⟩ := h.perform has.1
      obtain ⟨d, p, due, hplay⟩ := ih hstep has.2
      rw [List.append_assoc] at hplay
      exact ⟨d, p, due, hplay⟩

/-- A run that has not settled is not stuck: its work is ready, or becomes so when time moves to
the only timer. -/
theorem OnSchedule.progress (h : b.OnSchedule r c start d acts p due) (hp : p.slot = .waiting) :
    ∃ more, b.PausedAll more ∧ actsAt Bench.perform r b more ≠ [] := by
  have hticket : ∃ t, p.ticket? r = some t := by
    cases h.timetable with
    | underway hu _ _ => cases hu <;> exact ⟨_, rfl⟩
    | finished => cases hp
  obtain ⟨t, ht⟩ := hticket
  cases hready : b.clock.takeReady? with
  | some taken =>
      refine ⟨[.tick Clock.pause], ⟨.tick, trivial⟩, ?_⟩
      simpa [actsAt] using (h.drive hready).1
  | none =>
      have idle := Clock.ready_of_takeReady? hready
      obtain ⟨_, _, _, hmoved⟩ := h.perform (.jump idle)
      obtain ⟨after, hthen⟩ := (h.clock.jump idle).2 (.attempt t) (by rw [ht]; rfl)
      refine ⟨[_, .tick Clock.pause], ⟨.jump idle, .tick, trivial⟩, ?_⟩
      simpa [actsAt] using fun _ => (hmoved.drive hthen).1

/-- A run that is started on a clock with nothing to do is on schedule. -/
theorem onSchedule_launch {config : Config σ φ α} (hidle : b.clock.waiting = [])
    (hdesk : b.PunctualAt config.scheduler)
    (hwhole : ∀ wait ∈ config.backoff.waits, nanosPerMilli ∣ wait.nanos) (spans : List Log.Span)
    (d : Nat → Nat) :
    let r := b.roster.runs.length
    let performed := b.perform (.launch config spans)
    performed.2.OnSchedule r config b.clock.now d
      ((Roster.actsOf r performed.1).map (Prod.mk b.clock.now)) (.waiting 1) b.clock.now := by
  obtain ⟨hkept, hclock, hruns, hstill⟩ := request_punctual
    (b := { b with roster := b.roster.addRun ⟨config, spans, .waiting, 1⟩ }) hdesk .now
    (.attempt ⟨b.roster.runs.length, 1, .queued⟩) (by simp [Request.delay?])
  rw [perform_launch]
  dsimp only
  generalize request _ _ _ _ = asked at *
  obtain ⟨fate, after⟩ := asked
  obtain rfl : fate = .kept := hkept
  have hrun : after.roster.runs[b.roster.runs.length]? = some ⟨config, spans, .waiting, 1⟩ := by
    rw [hruns]
    exact List.getElem?_concat_length
  have hacts : Roster.actsOf b.roster.runs.length
      [⟨b.roster.runs.length, (.act .submitted : Note α)⟩] = [.submitted] := by
    simp [Roster.actsOf, Roster.notesOf, Note.act?]
  refine ⟨⟨_, hrun, rfl, rfl⟩, hstill, hwhole, ?_, ?_⟩
  · have hholds := (Clock.Holds.of_waiting hidle 0).submit
      (.attempt ⟨b.roster.runs.length, 1, .queued⟩)
    exact hclock ▸ hholds
  · rw [hacts]
    exact .underway .waiting ⟨rfl, rfl, by simp⟩ rfl

/-- The law of virtual time. A run is started on a clock with nothing to do, on a punctual
scheduler, bare or behind its recorder, and all its waits are whole milliseconds. Whatever happens
then while the clock is paused, there are times `d` that its attempts have taken, such that every
attempt polls its check when the attempts and the waits before it have passed, and the run settles
when its last attempt has taken its time, which is none if that was cancelled. If no attempt takes
any time, that is when the total of the waits has passed. A run that has not settled is not
stuck. -/
theorem virtual_time (b : Bench σ φ α) (config : Config σ φ α) (spans : List Log.Span)
    (as : List (Action σ φ α)) (hidle : b.clock.waiting = [])
    (hdesk : b.PunctualAt config.scheduler)
    (hwhole : ∀ wait ∈ config.backoff.waits, nanosPerMilli ∣ wait.nanos)
    (hpaused : (b.perform (.launch config spans)).2.PausedAll as) :
    let r := b.roster.runs.length
    let start := b.clock.now
    let actions := .launch config spans :: as
    let acts := actsAt Bench.perform r b actions
    let after := (b.play actions).2
    actsAt (performBy hand) r b.bare actions = acts ∧
    ∃ d k e, config.OnTime start d acts k e ∧ e ≤ k ∧ k ≤ e + 1 ∧
      (after.roster.outcome? r = none → timesOf Act.settles acts = [] ∧
        ∃ more, after.PausedAll more ∧ actsAt Bench.perform r after more ≠ []) ∧
      ∀ outcome, after.roster.outcome? r = some outcome → ∃ n, k = n + 1 ∧
        timesOf Act.settles acts = [config.begins start d n + d n] ∧
        ((∃ session, outcome = .error (.cancelled session)) ∧ e = n ∧ d n = 0 ∨
          (∀ session, outcome ≠ .error (.cancelled session)) ∧ e = n + 1) ∧
        ((∀ i < e, d i = 0) → n < UInt32.size → config.backoff.waited n ≤ Duration.maxNanos →
          ∃ total, config.backoff.total? (.ofNat n) = some total ∧
            timesOf Act.settles acts = [start + total.nanos]) := by
  intro r start actions acts after
  obtain ⟨d, p, due, hplay⟩ :=
    (onSchedule_launch hidle hdesk hwhole spans fun _ => 0).play hpaused
  have h : after.OnSchedule r config start d acts p due := hplay
  refine ⟨actsAt_bare r b actions, ?_⟩
  obtain ⟨run, hrun, -, hslot⟩ := h.run
  have houtcome : after.roster.outcome? r = p.slot.outcome? := by
    rw [Roster.outcome?, hrun, ← hslot]
    rfl
  have htimes := h.timetable
  cases htimes with
  | underway hu kept unsettled =>
      obtain ⟨hwaiting, -, hnext⟩ := hu.counts
      refine ⟨d, _, _, kept, by omega, by omega, fun _ => ⟨unsettled, ?_⟩, fun outcome ho => ?_⟩
      · exact h.progress hwaiting
      · rw [houtcome, hwaiting] at ho
        cases ho
  | @finished m e outcome kept settled last =>
      refine ⟨d, _, _, kept, by omega, by omega, fun hnone => ?_, fun outcome' ho => ?_⟩
      · rw [houtcome] at hnone
        cases hnone
      · rw [houtcome] at ho
        cases ho
        refine ⟨m, rfl, settled, last, fun hinstant hword hmax => ?_⟩
        have hlast : d m = 0 := by
          obtain ⟨-, -, hzero⟩ | ⟨-, rfl⟩ := last
          · exact hzero
          · exact hinstant m (Nat.lt_succ_self m)
        refine ⟨_, config.backoff.total?_of_le hword hmax, ?_⟩
        rw [settled, hlast, config.begins_of_instant start d fun i hi => hinstant i (by omega)]
        rfl

/-- A run whose operation takes two milliseconds and fails the first time. -/
def unhurried : Config Nat Bool Unit where
  action := "connect"
  session := "s-1"
  operation :=
    ⟨fun n => (.returned true, n + 1), fun fresh n =>
      (if fresh then .pending false (.ofMillis 2)
        else .done (.returned (if n = 1 then .error (.ofText "down") else .ok ())), n)⟩
  check := ⟨pure (.returned false)⟩
  scheduler := 0
  notifier := none
  classifier := .always
  backoff := ⟨[.ofMillis 5], List.cons_ne_nil _ _⟩

def unhurriedBench : Bench Nat Bool Unit :=
  ⟨.init 0, .init, [⟨Desk.faithful.scheduler.shared, .empty⟩]⟩

/-- All work of that run, with time moved to the only timer in between. -/
def unhurriedActions : List (Action Nat Bool Unit) :=
  .tick Clock.pause :: (List.replicate 3 [.arrange Clock.jumped, .tick Clock.pause]).flatten

/-- That run settles after two attempts of two milliseconds and a wait of five. -/
theorem virtual_time_unhurried :
    let actions := .launch unhurried [] :: unhurriedActions
    let acts := actsAt Bench.perform 0 unhurriedBench actions
    (unhurriedBench.play actions).2.roster.outcome? 0 = some (.ok ()) ∧
      timesOf Act.settles acts = [9 * nanosPerMilli] ∧
      ∃ d n, timesOf Act.settles acts = [unhurried.begins 0 d n + d n] := by
  intro actions acts
  have houtcome : (unhurriedBench.play actions).2.roster.outcome? 0 = some (.ok ()) := rfl
  have hpaused : (unhurriedBench.perform (.launch unhurried [])).2.PausedAll unhurriedActions :=
    ⟨.tick, .jump rfl, .tick, .jump rfl, .tick, .jump rfl, .tick, trivial⟩
  obtain ⟨-, d, k, e, -, -, -, -, hend⟩ := virtual_time unhurriedBench unhurried []
    unhurriedActions rfl ⟨_, rfl, Desk.punctual_faithful.shared⟩ (by decide) hpaused
  obtain ⟨n, -, hsettled, -⟩ := hend (.ok ()) houtcome
  exact ⟨rfl, rfl, d, n, hsettled⟩

end Bench

end Reattempt
