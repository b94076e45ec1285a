import Reattempt.Proofs.Bench.Basic
import Reattempt.Rehearsal.Basic

/-! # No work is lost on the clock

What the clock does moves work and neither loses nor multiplies it. Neither do the schedulers that
put their work on it, and the ways in which rehearsals and trials move time on and let work wait. -/

namespace Reattempt

variable {σ φ α ω S T : Type}

namespace Clock

variable (c : Clock ω) (w : ω)

theorem insertTimer_perm (due : Nat) (timers : List (Nat × ω)) :
    (insertTimer due w timers).Perm ((due, w) :: timers) := by
  induction timers with
  | nil => exact .refl _
  | cons timer rest ih =>
      rw [insertTimer]
      split
      · exact (ih.cons timer).trans (.swap _ _ _)
      · exact .refl _

theorem waiting_submit : (c.submit w).waiting.Perm (c.waiting ++ [w]) := by
  simp only [submit, waiting, List.append_assoc]
  rw [← List.append_assoc c.parked]
  exact .append_left _ List.perm_append_comm

theorem waiting_park : (c.park w).waiting.Perm (c.waiting ++ [w]) := by
  simp only [park, waiting, List.append_assoc]
  exact .append_left _ (.append_left _ List.perm_append_comm)

theorem waiting_schedule (delay : Duration) :
    (c.schedule delay w).waiting.Perm (c.waiting ++ [w]) := by
  have htimers := (insertTimer_perm w (c.now + delay.nanos) c.timers).map Prod.snd
  simp only [schedule, waiting, List.append_assoc]
  exact .append_left _ (.append_left _ (htimers.trans (List.perm_append_singleton _ _).symm))

theorem waiting_pause (length : Duration) :
    (c.pause length w).waiting.Perm (c.waiting ++ [w]) := by
  unfold pause
  split
  · exact c.waiting_submit w
  · exact c.waiting_schedule w length

theorem waiting_wake : c.wake.2.waiting.Perm c.waiting := by
  simp [wake, waiting]

theorem waiting_fire : c.fire.2.waiting.Perm c.waiting := by
  have htimers : c.timers.map Prod.snd =
      (c.timers.takeWhile fun timer => timer.1 ≤ c.now).map Prod.snd ++
        (c.timers.dropWhile fun timer => timer.1 ≤ c.now).map Prod.snd := by
    rw [← List.map_append, List.takeWhile_append_dropWhile]
  simp only [fire, waiting, htimers, List.append_assoc]
  refine .append_left _ ?_
  rw [← List.append_assoc, ← List.append_assoc]
  exact .append_right _ List.perm_append_comm

theorem waiting_advance (elapsed : Nat) : (c.advance elapsed).2.waiting.Perm c.waiting :=
  waiting_fire { c with now := c.now + elapsed }

/-- The clock after a jump, or as it is where there is no timer to jump to. -/
def jumped : Clock ω := (c.jump?.map Prod.snd).getD c

theorem waiting_jumped : c.jumped.waiting.Perm c.waiting := by
  unfold jumped jump?
  cases c.timers.head? with
  | none => exact .refl _
  | some timer => exact waiting_fire { c with now := timer.1 }

end Clock

/-- Where work waits in another order, the same tickets wait. -/
theorem Clock.tickets_perm {c d : Clock (Work σ φ)} {ws : List (Work σ φ)}
    (h : c.waiting.Perm (d.waiting ++ ws)) :
    c.tickets.Perm (d.tickets ++ ws.filterMap Work.ticket?) := by
  simpa [Clock.tickets] using h.filterMap Work.ticket?

namespace Scheduler

variable {clockOf : S → Clock (Work σ φ)} {s : Scheduler (Work σ φ) S}

theorem linear_onClock : (onClock : Scheduler (Work σ φ) (Clock (Work σ φ))).Linear id := by
  intro request w clock
  cases request with
  | now => exact Clock.tickets_perm (clock.waiting_submit w)
  | after delay => exact Clock.tickets_perm (clock.waiting_schedule w delay)

theorem Linear.shared (h : s.Linear clockOf) : s.shared.Linear clockOf := h

theorem Linear.capped (h : s.Linear clockOf) (limit : Duration) :
    (s.capped limit).Linear clockOf := by
  intro request w before
  cases request with
  | now => exact h .now w before
  | after delay => exact h (.after (delay.atMost limit)) w before

theorem Linear.forgetful (h : s.Linear clockOf) : s.forgetful.Linear clockOf := by
  intro request w before
  cases request with
  | now => exact h .now w before
  | after delay => exact .refl _

theorem linear_deaf (clockOf : S → Clock (Work σ φ)) :
    (deaf : Scheduler (Work σ φ) S).Linear clockOf :=
  fun _ _ _ => .refl _

theorem Linear.broken (h : s.Linear clockOf) : s.broken.Linear clockOf := by
  intro request w before
  cases request with
  | now => exact h .now w before
  | after delay => exact .refl _

theorem Linear.brokenSubmit (h : s.Linear clockOf) : s.brokenSubmit.Linear clockOf := by
  intro request w before
  cases request with
  | now => exact .refl _
  | after delay => exact h (.after delay) w before

theorem Linear.focus (h : s.Linear clockOf) (get : T → S) (put : S → T → T)
    (hget : ∀ s t, get (put s t) = s) :
    (s.focus get put).Linear fun t => clockOf (get t) := by
  intro request w before
  have hs := h request w (get before)
  simp only [Scheduler.focus, hget]
  exact hs

theorem Linear.observed {see : Request → S → S} (h : s.Linear clockOf)
    (hsee : ∀ request before, clockOf (see request before) = clockOf before) :
    (s.observed see).Linear clockOf := by
  intro request w before
  have hs := h request w (see request before)
  rw [hsee] at hs
  exact hs

end Scheduler

namespace Bench.Action

theorem linear_park : (tick fun clock _ w => clock.park w : Action σ φ α).Linear :=
  fun clock _ w => Clock.tickets_perm (clock.waiting_park w)

theorem linear_pause (length : Duration → Duration) :
    (tick fun clock pause w => clock.pause (length pause) w : Action σ φ α).Linear :=
  fun clock pause w => Clock.tickets_perm (clock.waiting_pause w (length pause))

theorem linear_wake : (arrange fun clock => clock.wake.2 : Action σ φ α).Linear :=
  fun clock => clock.waiting_wake.filterMap Work.ticket?

theorem linear_advance (elapsed : Nat) :
    (arrange fun clock => (clock.advance elapsed).2 : Action σ φ α).Linear :=
  fun clock => (clock.waiting_advance elapsed).filterMap Work.ticket?

theorem linear_jump : (arrange Clock.jumped : Action σ φ α).Linear :=
  fun clock => clock.waiting_jumped.filterMap Work.ticket?

end Bench.Action

/-- A desk that puts all work on the clock. -/
def Desk.faithful : Desk σ φ := ⟨Scheduler.onClock.focus Prod.fst fun c s => (c, s.2), .empty⟩

theorem Desk.linear_faithful : (faithful : Desk σ φ).scheduler.Linear Prod.fst :=
  Scheduler.linear_onClock.focus Prod.fst (fun c s => (c, s.2)) fun _ _ => rfl

/-- The schedulers of rehearsals, however they treat work, are linear. -/
theorem Rehearsal.Mode.linear_desk (mode : Mode) :
    (mode.desk : Desk Scripted.Fixture (Scripted.Playing α)).scheduler.Linear Prod.fst := by
  have hmode : (mode.scheduler :
      Scheduler (Work Scripted.Fixture (Scripted.Playing α)) _).Linear id := by
    cases mode with
    | faithful => exact Scheduler.linear_onClock
    | shared => exact Scheduler.linear_onClock.shared
    | forgetful => exact Scheduler.linear_onClock.forgetful
    | deaf => exact Scheduler.linear_deaf id
    | broken => exact Scheduler.linear_onClock.broken
    | brokenSubmit => exact Scheduler.linear_onClock.brokenSubmit
  exact (hmode.focus Prod.fst (fun c s => (c, s.2)) fun _ _ => rfl).observed fun _ _ => rfl

end Reattempt
