import Reattempt.Proofs.Backoff.Total
import Reattempt.Proofs.Bench.Independence
import Reattempt.Proofs.Scheduler.Recorder

/-! # Planned and recorded totals

The total of the waits that a backoff table plans is the total of the delays that a recorder has
seen, as long as a duration can hold it. Past that the plan saturates and the recorder overflows. -/

namespace Reattempt

variable {σ φ α : Type}

/-- A planned total stops at the longest duration, if the listed waits alone are not too long. -/
theorem Backoff.total?_of_lt (b : Backoff) {failures : Nat} (hword : failures < UInt32.size)
    (h : Duration.maxNanos < b.waited failures)
    (hlisted : ((b.waits.take failures).map Duration.nanos).sum ≤ Duration.maxNanos) :
    b.total? (.ofNat failures) = some .longest := by
  rw [b.total?_of_listed_le hword hlisted]
  exact congrArg some (Duration.ext (Nat.min_eq_right (Nat.le_of_lt h)))

namespace Bench

variable {b : Bench σ φ α} {lines : List (Line α)}

/-- A recorder that has a single run remembers the delays that this run has requested. -/
theorem Recorded.delays_of_only (h : Recorded b lines) {i r : Nat} {d : Desk σ φ}
    (hd : b.desks[i]? = some d) (hr : b.roster.schedulers[r]? = some i)
    (honly : ∀ r', b.roster.schedulers[r']? = some i → r' = r) :
    d.record.delays = requestsOf r lines := by
  rw [h.records i d hd, requestsOf_eq, List.filterMap_filter]
  refine List.filterMap_congr fun line _ => ?_
  by_cases hline : line.run = r
  · simp [delayAt, hline, hr]
  · have hother : ¬ b.roster.schedulers[line.run]? = some i := fun hs => hline (honly _ hs)
    simp [delayAt, hline, hother]

/-- A run has requested the delays after its accepted failures, in turn. -/
theorem Independent.requests {env : σ} {last : Bench σ φ α} {r : Nat} {run : Run σ φ α}
    (h : Independent env lines last r run) :
    requestsOf r lines =
      (List.range (((Roster.notesOf r lines).filterMap Note.act?).countP Act.accepts)).map
        fun i => run.config.backoff.delay (.ofNat (i + 1)) := by
  obtain ⟨tries, htries, hrequests, hend⟩ := h.course
  have haccepted : ((Roster.notesOf r lines).filterMap Note.act?).countP Act.accepts =
      tries.length := by
    refine accepted_of_tries (φ := φ) htries ?_
    obtain ⟨rest, stage, hacts, hbegun, -⟩ | ⟨decisive, outcome, hacts, hlast, -⟩ := hend
    · exact .inl ⟨rest, stage, hacts, hbegun⟩
    · exact .inr ⟨decisive, outcome, hacts, hlast⟩
  rw [haccepted]
  exact hrequests

/-- The planned and the recorded total of the waits agree. A run is driven through a recorder that
no other run has, and `k` of its failures have been accepted, be it settled or not. If a duration
can hold the sum of the waits, both totals are that sum. If none can, to ask the recorder is a
panic, and the planned total is the longest duration, if the waits that it lists are not too long
alone. -/
theorem totals_agree (b : Bench σ φ α) (hb : b.Fresh) (as : List (Action σ φ α))
    (has : ∀ a ∈ as, a.Linear) (r : Nat) (run : Run σ φ α) (d : Desk σ φ)
    (hr : (b.play as).2.roster.runs[r]? = some run)
    (hd : (b.play as).2.desks[run.config.scheduler]? = some d)
    (honly : ∀ r', (b.play as).2.roster.schedulers[r']? = some run.config.scheduler → r' = r) :
    let acts := (Roster.notesOf r (b.play as).1).filterMap Note.act?
    let k := acts.countP Act.accepts
    let backoff := run.config.backoff
    k < UInt32.size →
      (backoff.waited k ≤ Duration.maxNanos → ∃ total : Duration, total.nanos = backoff.waited k ∧
        Question.total.ask d.record = .returned (.total total) ∧
        backoff.total? (.ofNat k) = some total) ∧
      (Duration.maxNanos < backoff.waited k →
        Question.total.ask d.record = .panicked (.text Duration.overflowText) ∧
        (((backoff.waits.take k).map Duration.nanos).sum ≤ Duration.maxNanos →
          backoff.total? (.ofNat k) = some .longest)) := by
  intro acts k backoff hk
  obtain ⟨ms, -, hlines, hlast⟩ := hb.simulates.play has
  have hscheduler : (b.play as).2.roster.schedulers[r]? = some run.config.scheduler := by
    rw [Roster.schedulers, List.getElem?_map, hr]
    rfl
  have hrecord : d.record.delays =
      (List.range k).map fun i => backoff.delay (.ofNat (i + 1)) := by
    rw [(hb.recorded.play as).delays_of_only hd hscheduler honly]
    exact (hlast.independent hlines hr).requests
  have htotal : d.record.total? = Duration.ofNanos? (backoff.waited k) := by
    rw [Record.total?, hrecord, Duration.sum?_eq, List.map_map]
    rfl
  constructor
  · intro hle
    have hsum : d.record.total? = some ⟨backoff.waited k, hle⟩ :=
      htotal.trans (Duration.ofNanos?_eq_some_iff.mpr rfl)
    refine ⟨⟨backoff.waited k, hle⟩, rfl, ?_, backoff.total?_of_le hk hle⟩
    rw [Question.ask, hsum]
  · intro hlt
    have hsum : d.record.total? = none := htotal.trans (Duration.ofNanos?_eq_none_iff.mpr hlt)
    refine ⟨?_, backoff.total?_of_lt hk hlt⟩
    rw [Question.ask, hsum]

/-- A run that fails twice and then succeeds. -/
def recovering (backoff : Backoff) : Config Nat Unit Unit where
  action := "connect"
  session := "s-1"
  operation := ⟨fun n => (.returned (), n + 1), fun _ n =>
    (.done (.returned (if n ≤ 2 then .error (.ofText "down") else .ok ())), n)⟩
  check := ⟨pure (.returned false)⟩
  scheduler := 0
  notifier := none
  classifier := .always
  backoff := backoff

def recoveringBench : Bench Nat Unit Unit := ⟨.init 0, .init, [.faithful]⟩

/-- All work of that run, with time moved on until the wait is over. -/
def recoveringActions (backoff : Backoff) : List (Action Nat Unit Unit) :=
  [.launch (recovering backoff) [], .tick fun clock _ w => clock.park w,
    .arrange fun clock => (clock.advance (UInt64.size * nanosPerSec)).2,
    .tick fun clock _ w => clock.park w,
    .arrange fun clock => (clock.advance (UInt64.size * nanosPerSec)).2,
    .tick fun clock _ w => clock.park w]

theorem fresh_recoveringBench : recoveringBench.Fresh where
  runs := rfl
  tickets := rfl
  linear _ hd := List.mem_singleton.mp hd ▸ Desk.linear_faithful
  empty _ hd := List.mem_singleton.mp hd ▸ rfl

theorem linear_recoveringActions (backoff : Backoff) :
    ∀ a ∈ recoveringActions backoff, a.Linear := by
  intro a ha
  simp only [recoveringActions, List.mem_cons, List.not_mem_nil, or_false] at ha
  obtain rfl | rfl | rfl | rfl | rfl | rfl := ha
  · trivial
  · exact Action.linear_park
  · exact Action.linear_advance _
  · exact Action.linear_park
  · exact Action.linear_advance _
  · exact Action.linear_park

/-- Two waits of one second each were planned, and two were recorded. -/
theorem totals_agree_recovering :
    let last := (recoveringBench.play (recoveringActions .standard)).2
    last.roster.outcome? 0 = some (.ok ()) ∧ ∃ d total, last.desks[0]? = some d ∧
      total.nanos = 2 * nanosPerSec ∧ Question.total.ask d.record = .returned (.total total) ∧
      Backoff.standard.total? 2 = some total := by
  intro last
  have hrun : last.roster.runs[0]? = some ⟨recovering .standard, [], .settled (.ok ()), 1⟩ := rfl
  have hdesk : last.desks[0]? = some ⟨Desk.faithful.scheduler, 1, [.ofSecs 1, .ofSecs 1]⟩ := rfl
  have honly : ∀ r', last.roster.schedulers[r']? = some 0 → r' = 0 := by
    intro r' hr'
    cases r' with
    | zero => rfl
    | succ r' => cases hr'
  obtain ⟨hsum, -⟩ := totals_agree recoveringBench fresh_recoveringBench _
    (linear_recoveringActions .standard) 0 _ _ hrun hdesk honly (by decide)
  obtain ⟨total, hnanos, hrecorded, hplanned⟩ := hsum (by decide)
  exact ⟨rfl, _, total, hdesk, hnanos, hrecorded, hplanned⟩

/-- A table whose only wait is within a second of the longest duration. -/
def overlong : Backoff := ⟨[.ofSecs (.ofNat (UInt64.size - 1))], List.cons_ne_nil _ _⟩

/-- There are not always two totals to agree: this run has failed twice and settled, the planned
total is the longest duration, and to ask its recorder for the total is a panic. -/
theorem totals_disagree_overlong :
    let played := recoveringBench.play (recoveringActions overlong)
    played.2.roster.outcome? 0 = some (.ok ()) ∧
      ((Roster.notesOf 0 played.1).filterMap Note.act?).countP Act.accepts = 2 ∧
      overlong.total? 2 = some .longest ∧ ∃ d, played.2.desks[0]? = some d ∧
        Question.total.ask d.record = .panicked (.text Duration.overflowText) ∧
        ¬ ∃ total, Question.total.ask d.record = .returned (.total total) ∧
          overlong.total? 2 = some total := by
  refine ⟨rfl, rfl, rfl, _, rfl, rfl, ?_⟩
  rintro ⟨total, hrecorded, -⟩
  cases hrecorded

end Bench

end Reattempt
