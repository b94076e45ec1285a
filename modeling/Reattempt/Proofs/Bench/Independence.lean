import Reattempt.Proofs.Bench.Clock
import Reattempt.Proofs.Bench.Records
import Reattempt.Proofs.Bench.Simulation
import Reattempt.Proofs.World.Alone
import Reattempt.Proofs.World.Numbers

/-! # Runs are independent

On a bench that any number of runs share, every run is what it would be alone, and what a recorder
remembers is a shuffle of what each of its runs requests. -/

namespace Reattempt

variable {σ φ α β : Type}

/-- A list is a shuffle of some parts if its elements can be marked with the number of the part they
are from, so that what is marked with a number is that part, in its order. -/
def Shuffle (parts : Nat → List β) (whole : List β) : Prop :=
  ∃ marked : List (Nat × β), marked.map Prod.snd = whole ∧
    ∀ i, (marked.filter fun m => m.1 = i).map Prod.snd = parts i

/-- What some lines say, each with the number of its run, is a shuffle of what is said of each
run. -/
theorem shuffle_lines (see : Line α → Option β) (lines : List (Line α)) :
    Shuffle (fun r => (lines.filter fun line => line.run = r).filterMap see)
      (lines.filterMap see) := by
  -- every element is marked with the run of its line
  refine ⟨lines.filterMap fun line => (see line).map (line.run, ·), ?_, fun r => ?_⟩
  · rw [List.map_filterMap]
    refine List.filterMap_congr fun line _ => ?_
    cases see line <;> rfl
  · induction lines with
    | nil => rfl
    | cons line lines ih =>
        by_cases hr : line.run = r <;> cases hs : see line <;>
          simpa [List.filterMap_cons, List.filter_cons, hr, hs] using ih

namespace World

theorem linesOf_sightsOf (r : Nat) (seen : List (Sight φ α)) :
    linesOf (sightsOf r seen) = (notesOf r seen).map (Line.mk 0) := by
  rw [linesOf, sightsOf, notesOf, List.filterMap_filterMap, List.map_filterMap]
  refine List.filterMap_congr fun sight _ => ?_
  cases sight with
  | line l => by_cases hr : l.run = r <;> simp [Sight.alone?, Sight.line?, Line.alone, hr]
  | dropped t => by_cases hr : t.run = r <;> simp [Sight.alone?, Sight.line?, hr]

end World

namespace Bench

/-- A bench on which nothing was started, whose recorders are empty. -/
structure Fresh (b : Bench σ φ α) : Prop where
  runs : b.roster.runs = []
  tickets : b.clock.tickets = []
  linear : ∀ d ∈ b.desks, d.scheduler.Linear Prod.fst
  empty : ∀ d ∈ b.desks, d.record = .empty

variable {b : Bench σ φ α}

theorem Fresh.simulates (h : b.Fresh) : Simulates b (World.init b.roster.env) where
  roster := congrArg (Roster.mk b.roster.env) h.runs.symm
  held := by
    rw [h.tickets]
    exact .refl _
  linear := h.linear

theorem Fresh.recorded (h : b.Fresh) : Recorded b [] where
  known line hline := by cases hline
  records i d hd := by
    rw [h.empty d (List.mem_of_getElem? hd), recordAt, Roster.schedulers, h.runs]
    rfl

def ticketsOf (b : Bench σ φ α) (r : Nat) : List (Ticket φ) :=
  b.clock.tickets.filter fun t => t.run = r

/-- The delays that a run requests. -/
def requestsOf (r : Nat) (lines : List (Line α)) : List Duration :=
  ((Roster.notesOf r lines).filterMap Note.act?).filterMap Act.request?

theorem requestsOf_eq (r : Nat) (lines : List (Line α)) : requestsOf r lines =
    (lines.filter fun line => line.run = r).filterMap fun line => line.note.request? := by
  have hnotes : Roster.notesOf r lines =
      (lines.filter fun line => line.run = r).map fun line => line.note := by
    rw [Roster.notesOf, ← List.filterMap_eq_map, ← List.filterMap_eq_filter,
      List.filterMap_filterMap]
    refine List.filterMap_congr fun line _ => ?_
    by_cases hr : line.run = r <;> simp [Option.guard, hr]
  rw [requestsOf, hnotes, List.filterMap_filterMap, List.filterMap_map]
  rfl

/-- The delays that a desk has recorded are a shuffle of those that the runs of its scheduler have
requested. -/
theorem Recorded.shuffle {lines : List (Line α)} (h : Recorded b lines) {i : Nat} {d : Desk σ φ}
    (hd : b.desks[i]? = some d) : Shuffle (fun r => if b.roster.schedulers[r]? = some i then
      requestsOf r lines else []) d.record.delays := by
  have hparts : ∀ r, (lines.filter fun line => line.run = r).filterMap
      (delayAt b.roster.schedulers i) = if b.roster.schedulers[r]? = some i then
        requestsOf r lines else [] := by
    intro r
    rw [requestsOf_eq]
    exact filterMap_delayAt (by simp) i
  rw [h.records i d hd, ← funext hparts]
  exact shuffle_lines _ lines

/-- What some lines say and a bench holds of run `r` depends on no other run. -/
structure Independent (env : σ) (lines : List (Line α)) (last : Bench σ φ α) (r : Nat)
    (run : Run σ φ α) : Prop where
  /-- In some play nothing is executed but the run's configuration. It says what is said of the
  run, and it leaves the run as it is, its outcome and what callers' code shares included. -/
  alone : ∃ alone : List (Move σ φ α), alone.filterMap Move.config? = [run.config] ∧
    World.linesOf ((World.init env).play alone).1 = (Roster.notesOf r lines).map (Line.mk 0) ∧
    ((World.init env).play alone).2.roster = ⟨last.roster.env, [run]⟩
  /-- Its attempts are numbered from one. -/
  numbers : let n := ((Roster.notesOf r lines).filterMap Note.act?).countP Act.checks
    n < 2 ^ 32 → ((Roster.notesOf r lines).filterMap Note.opening?).map UInt32.toNat =
      (List.range n).map (· + 1)
  /-- Every attempt but the last was followed by another, for whose wait it has asked. The run is
  undecided as long as the ticket of the next attempt waits, it is interrupted if that ticket is
  gone, and it is settled as its last attempt decided. -/
  course : ∃ tries : List (List (Act α)),
    (∀ i (hi : i < tries.length), run.config.Attempt (i + 1) tries[i] none) ∧
      requestsOf r lines =
        (List.range tries.length).map (fun i => run.config.backoff.delay (.ofNat (i + 1))) ∧
      ((∃ rest stage, (Roster.notesOf r lines).filterMap Note.act? =
            .submitted :: (tries.flatten ++ rest) ∧ Begun rest stage ∧
          (last.ticketsOf r = [⟨r, .ofNat (tries.length + 1), stage⟩] ∧
              last.roster.outcome? r = none ∨
            last.ticketsOf r = [] ∧ last.roster.outcome? r = some (.error .interrupted))) ∨
        ∃ decisive outcome, (Roster.notesOf r lines).filterMap Note.act? =
            .submitted :: (tries.flatten ++ (decisive ++ [.settled outcome])) ∧
          run.config.Attempt (tries.length + 1) decisive (some outcome) ∧
          last.ticketsOf r = [] ∧ last.roster.outcome? r = some outcome)

theorem numbers_of_lt {n : Nat} (h : n < 2 ^ 32) :
    ((List.range n).map fun i => UInt32.ofNat (i + 1)).map UInt32.toNat =
      (List.range n).map (· + 1) := by
  rw [List.map_map]
  refine List.map_congr_left fun i hi => ?_
  have hlt : i + 1 < 2 ^ 32 := Nat.lt_of_le_of_lt (List.mem_range.mp hi) h
  exact UInt32.toNat_ofNat_of_lt' hlt

/-- The runs of a bench are as independent as those of the world that it simulates. -/
theorem Simulates.independent {env : σ} {ms : List (Move σ φ α)} {lines : List (Line α)}
    {last : Bench σ φ α} (h : Simulates last ((World.init env).play ms).2)
    (hlines : World.linesOf ((World.init env).play ms).1 = lines) {r : Nat} {run : Run σ φ α}
    (hr : last.roster.runs[r]? = some run) : Independent env lines last r run := by
  have hr' := hr
  rw [← h.roster] at hr'
  have hnotes : World.notesOf r ((World.init env).play ms).1 = Roster.notesOf r lines := by
    rw [← World.notesOf_linesOf, hlines]
  refine ⟨?_, ?_, ?_⟩
  · obtain ⟨alone, halone, hplay⟩ := World.exists_alone env ms hr'
    refine ⟨alone, halone, ?_, ?_⟩
    · rw [hplay, World.projected, World.linesOf_sightsOf, hnotes]
    · rw [hplay, World.projected, World.only, h.roster, Roster.only, hr]
      rfl
  · intro n hn
    have hopenings := World.openings_eq env ms hr'
    simp only [World.openingsOf, World.actsOf, hnotes] at hopenings
    rw [hopenings]
    exact numbers_of_lt hn
  · obtain ⟨tries, htries, hend⟩ := World.exists_course env ms hr'
    simp only [World.actsOf, hnotes, h.roster] at hend
    -- a run has at most one ticket, so that the order on the clock does not matter
    have hperm : (((World.init env).play ms).2.heldBy r).Perm (last.ticketsOf r) :=
      h.held.filter _
    obtain ⟨rest, stage, hacts, hbegun, hticket⟩ | ⟨decisive, outcome, hacts, hlast, hheld, ho⟩ :=
      hend
    · refine ⟨tries, htries, requests_of_tries htries (.inl ⟨rest, stage, hacts, hbegun⟩),
        .inl ⟨rest, stage, hacts, hbegun, ?_⟩⟩
      obtain ⟨hheld, -, ho⟩ | ⟨hheld, -, ho⟩ := hticket <;> rw [hheld] at hperm
      · exact .inl ⟨hperm.singleton_eq.symm, ho⟩
      · exact .inr ⟨hperm.nil_eq.symm, ho⟩
    · rw [hheld] at hperm
      exact ⟨tries, htries, requests_of_tries htries (.inr ⟨decisive, outcome, hacts, hlast⟩),
        .inr ⟨decisive, outcome, hacts, hlast, hperm.nil_eq.symm, ho⟩⟩

theorem Recorded.submissions {lines : List (Line α)} (h : Recorded b lines) {i : Nat}
    {d : Desk σ φ} (hd : b.desks[i]? = some d) : d.record.submissions =
      (b.roster.runs.map Run.config).countP fun c => c.scheduler = i := by
  have hschedulers : b.roster.schedulers =
      (b.roster.runs.map Run.config).map fun c => c.scheduler := by
    rw [List.map_map]
    rfl
  rw [h.records i d hd, recordAt, hschedulers, List.count_eq_countP, List.countP_map]
  exact List.countP_congr fun c _ => by simp

/-- Any number of runs are executed on a bench, and their work is polled, delayed and lost in any
order. The runs are those of the executed configurations, and none depends on another. Every desk
has counted the runs that were executed for it, and the delays that it has recorded are a shuffle
of those that its runs have requested. -/
theorem runs_independent (b : Bench σ φ α) (hb : b.Fresh) (as : List (Action σ φ α))
    (has : ∀ a ∈ as, a.Linear) :
    let lines := (b.play as).1
    let last := (b.play as).2
    last.roster.runs.map Run.config = as.filterMap Action.config? ∧
      (∀ r run, last.roster.runs[r]? = some run → Independent b.roster.env lines last r run) ∧
      ∀ i d, last.desks[i]? = some d →
        d.record.submissions = (as.filterMap Action.config?).countP (fun c => c.scheduler = i) ∧
        Shuffle (fun r => if last.roster.schedulers[r]? = some i then requestsOf r lines else [])
          d.record.delays := by
  intro lines last
  obtain ⟨ms, hconfigs, hlines, hlast⟩ := hb.simulates.play has
  have hplayed := (World.balanced_init b.roster.env).configs_play ms
  have hruns : last.roster.runs.map Run.config = as.filterMap Action.config? := by
    rw [← hlast.roster, ← hconfigs]
    exact hplayed
  have hrecorded := hb.recorded.play as
  refine ⟨hruns, fun r run hr => hlast.independent hlines hr, fun i d hd => ⟨?_, ?_⟩⟩
  · rw [hrecorded.submissions hd, hruns]
  · exact hrecorded.shuffle hd

/-- Two runs of one hopeless configuration, which share a recorder. Both fail, a second passes, and
both fail again. -/
def clonesActions : List (Action Unit Unit Unit) :=
  [.launch (.hopeless .standard) [], .launch (.hopeless .standard) [],
    .tick fun clock _ w => clock.park w, .tick fun clock _ w => clock.park w,
    .arrange fun clock => (clock.advance nanosPerSec).2,
    .tick fun clock _ w => clock.park w, .tick fun clock _ w => clock.park w]

def clonesBench : Bench Unit Unit Unit := ⟨.init (), .init, [.faithful]⟩

/-- The recorder has counted both runs, and has shuffled the delays that each has asked for. -/
theorem runs_independent_clones :
    ∃ d, (clonesBench.play clonesActions).2.desks[0]? = some d ∧
      d.record = ⟨2, [.ofSecs 1, .ofSecs 1, .ofSecs 1, .ofSecs 1]⟩ ∧
      Shuffle (fun r => if r < 2 then [.ofSecs 1, .ofSecs 1] else []) d.record.delays := by
  have hfresh : clonesBench.Fresh :=
    { runs := rfl
      tickets := rfl
      linear := fun d hd => List.mem_singleton.mp hd ▸ Desk.linear_faithful
      empty := fun d hd => List.mem_singleton.mp hd ▸ rfl }
  have hactions : ∀ a ∈ clonesActions, a.Linear := by
    intro a ha
    simp only [clonesActions, List.mem_cons, List.not_mem_nil, or_false] at ha
    obtain rfl | rfl | rfl | rfl | rfl | rfl | rfl := ha
    · trivial
    · trivial
    · exact Action.linear_park
    · exact Action.linear_park
    · exact Action.linear_advance nanosPerSec
    · exact Action.linear_park
    · exact Action.linear_park
  have hd : (clonesBench.play clonesActions).2.desks[0]? =
      some ⟨Desk.faithful.scheduler, 2, [.ofSecs 1, .ofSecs 1, .ofSecs 1, .ofSecs 1]⟩ := rfl
  obtain ⟨-, -, hdesks⟩ := runs_independent clonesBench hfresh clonesActions hactions
  refine ⟨_, hd, rfl, ?_⟩
  convert (hdesks 0 _ hd).2 using 2 with r
  have hschedulers : (clonesBench.play clonesActions).2.roster.schedulers = [0, 0] := rfl
  rw [hschedulers]
  rcases r with _ | _ | r
  · rfl
  · rfl
  · rfl

end Bench

end Reattempt
