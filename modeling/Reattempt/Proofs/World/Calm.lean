import Reattempt.Proofs.Bench.Clock
import Reattempt.Proofs.Run.Calm
import Reattempt.Proofs.Run.Notices
import Reattempt.Proofs.Run.Tally
import Reattempt.Proofs.World.Numbers

/-! # Panics are answers

Whatever schedulers do, runs whose code panics do the same as the runs without panics, and no
panic of theirs comes out of a unit of work. -/

namespace Reattempt

variable {σ φ α β : Type}

namespace Act

def calls : Act α → Bool
  | called _ => true
  | _ => false

/-- A panic of the check, the operation or the classifier. -/
def panics : Act α → Bool
  | checked (.panicked _) => true
  | called (.panicked _) => true
  | polled (some (.panicked _)) => true
  | classified _ (.panicked _) => true
  | _ => false

/-- What is done in place of an act is the same to whoever cannot tell answers from panics, and
holds no panic. -/
theorem calm_same (a : Act α) :
    a.calm.countP checks = a.checks.toNat ∧ a.calm.countP calls = a.calls.toNat ∧
      a.calm.filterMap notified? = a.notified?.toList ∧
      a.calm.filterMap classified? = a.classified?.toList ∧
      a.calm.filterMap request? = a.request?.toList ∧ a.calm.countP panics = 0 := by
  cases a with
  | checked reply => cases reply <;> exact ⟨rfl, rfl, rfl, rfl, rfl, rfl⟩
  | called reply => cases reply <;> exact ⟨rfl, rfl, rfl, rfl, rfl, rfl⟩
  | polled reply => rcases reply with _ | _ | _ <;> exact ⟨rfl, rfl, rfl, rfl, rfl, rfl⟩
  | classified cause reply => cases reply <;> exact ⟨rfl, rfl, rfl, rfl, rfl, rfl⟩
  | _ => exact ⟨rfl, rfl, rfl, rfl, rfl, rfl⟩

theorem filterMap_calm {see : Act α → Option β}
    (h : ∀ a : Act α, a.calm.filterMap see = (see a).toList) (acts : List (Act α)) :
    (acts.flatMap Act.calm).filterMap see = acts.filterMap see := by
  induction acts with
  | nil => rfl
  | cons a acts ih =>
      rw [List.flatMap_cons, List.filterMap_append, h, ih, Act.filterMap_cons]

theorem countP_calm {p q : Act α → Bool} (h : ∀ a : Act α, a.calm.countP p = (q a).toNat)
    (acts : List (Act α)) : (acts.flatMap Act.calm).countP p = acts.countP q := by
  induction acts with
  | nil => rfl
  | cons a acts ih =>
      rw [List.flatMap_cons, List.countP_append, h, ih, Act.countP_cons, Nat.add_comm]

end Act

def Move.calm : Move σ φ α → Move σ (Except Failure φ) α
  | launch config spans fate => launch config.calm spans fate
  | poll place fate => poll place fate
  | discard place => discard place
  | share run => share run
  | release run => release run
  | outside effect => outside effect

/-- What is seen in place of what is seen of runs that may panic. -/
def Sight.calm : Sight φ α → List (Sight (Except Failure φ) α)
  | line l => l.calm.map line
  | dropped t => [dropped t.calm]

namespace World

/-- The world of the same runs without panics. -/
def calm (w : World σ φ α) : World σ (Except Failure φ) α := ⟨w.roster.calm, w.held.map Ticket.calm⟩

/-- What runs without panics show and leave in place of some runs. -/
def calmed (x : List (Sight φ α) × World σ φ α) :
    List (Sight (Except Failure φ) α) × World σ (Except Failure φ) α :=
  (x.1.flatMap Sight.calm, x.2.calm)

variable (w : World σ φ α)

theorem flatMap_calm_sights (lines : List (Line α)) :
    (lines.map .line : List (Sight φ α)).flatMap Sight.calm =
      (lines.flatMap Line.calm).map .line := by
  rw [List.flatMap_map, List.map_flatMap]
  rfl

theorem lose_calm (t : Ticket φ) : w.calm.lose t.calm = calmed (w.lose t) :=
  Prod.ext rfl (congrArg (World.mk · _) (w.roster.modifyRun_calm t.run fun _ => rfl))

theorem receive_calm (t : Ticket φ) (fate : Fate) :
    w.calm.receive t.calm fate = calmed (w.receive t fate) := by
  cases fate with
  | kept => simp [World.receive, calmed, calm]
  | _ => exact w.lose_calm t

theorem afterPoll_calm (fate : Fate) (d : Driven φ) :
    w.calm.afterPoll fate d.calm = calmed (w.afterPoll fate d) := by
  cases d with
  | suspended t pause => exact w.receive_calm t .kept
  | finished => rfl
  | handedOver delay t => exact w.receive_calm t fate

theorem observed_calm (run : Nat) (f : Nat → Nat) :
    (⟨w.calm.roster.modifyRun run fun r => { r with observers := f r.observers }, w.calm.held⟩ :
        World σ (Except Failure φ) α) =
      (⟨w.roster.modifyRun run fun r => { r with observers := f r.observers }, w.held⟩ :
        World σ φ α).calm :=
  congrArg (World.mk · _) (w.roster.modifyRun_calm run fun _ => rfl)

theorem afterSubmit_calm (run : Nat) (fate : Fate) :
    w.calm.afterSubmit run fate = (w.afterSubmit run fate).calm := by
  cases fate with
  | panicked payload => exact w.observed_calm run (· - 1)
  | _ => rfl

theorem launch_calm (config : Config σ φ α) (spans : List Log.Span) :
    (⟨w.calm.roster.addRun ⟨config.calm, spans, .waiting, 1⟩, w.calm.held⟩ :
        World σ (Except Failure φ) α) =
      (⟨w.roster.addRun ⟨config, spans, .waiting, 1⟩, w.held⟩ : World σ φ α).calm := by
  simp [calm, Roster.calm, Roster.addRun, Run.calm]

/-- A move of runs without panics shows and leaves the same as the move with panics, but for the
answers in place of the panics. -/
theorem perform_calm (m : Move σ φ α) : w.calm.perform m.calm = calmed (w.perform m) := by
  cases m with
  | launch config spans fate =>
      have hlen : w.calm.roster.runs.length = w.roster.runs.length := List.length_map _
      have hreceive := receive_calm ⟨w.roster.addRun ⟨config, spans, .waiting, 1⟩, w.held⟩
        ⟨w.roster.runs.length, 1, .queued⟩ fate
      rw [← launch_calm] at hreceive
      simp only [World.perform, Move.calm, Roster.run_launch, hlen]
      rw [calmed, List.flatMap_append, ← afterSubmit_calm]
      have hseen := congrArg Prod.fst hreceive
      have hafter := congrArg Prod.snd hreceive
      exact Prod.ext (congrArg (List.cons _) hseen) (congrArg (World.afterSubmit · _ fate) hafter)
  | poll place fate =>
      simp only [World.perform, Move.calm, calm, List.getElem?_map]
      cases ht : w.held[place]? with
      | none => rfl
      | some t =>
          have hdrive := w.roster.drive_calm t []
          have hafter := afterPoll_calm ⟨((Roster.drive t).run [] w.roster).state,
            w.held.eraseIdx place⟩ fate ((Roster.drive t).run [] w.roster).value
          simp only [Option.map_some, hdrive, List.eraseIdx_map, calmed, List.flatMap_append,
            flatMap_calm_sights]
          have hseen := congrArg Prod.fst hafter
          have hrest := congrArg Prod.snd hafter
          exact Prod.ext (congrArg (List.append _) hseen) hrest
  | discard place =>
      simp only [World.perform, Move.calm, calm, List.getElem?_map]
      cases ht : w.held[place]? with
      | none => rfl
      | some t =>
          rw [Option.map_some, List.eraseIdx_map]
          exact lose_calm ⟨w.roster, w.held.eraseIdx place⟩ t
  | share run => exact Prod.ext rfl (w.observed_calm run (· + 1))
  | release run => exact Prod.ext rfl (w.observed_calm run (· - 1))
  | outside effect => rfl

theorem play_calm (ms : List (Move σ φ α)) :
    w.calm.play (ms.map Move.calm) = calmed (w.play ms) := by
  induction ms generalizing w with
  | nil => rfl
  | cons m ms ih =>
      rw [List.map_cons, play_cons, perform_calm, calmed, ih, play_cons, calmed, calmed,
        List.flatMap_append]

/-! ## What is seen of a run -/

theorem notesOf_calm (r : Nat) (seen : List (Sight φ α)) :
    notesOf r (seen.flatMap Sight.calm) = (notesOf r seen).flatMap Note.calm := by
  induction seen with
  | nil => rfl
  | cons sight seen ih =>
      rw [List.flatMap_cons, notesOf_append, ih]
      cases sight with
      | line l =>
          rw [Sight.calm, notesOf_lines, Line.calm]
          by_cases h : l.run = r
          · subst h
            simp [Roster.notesOf_self, notesOf]
          · simp [Roster.notesOf_other h, notesOf, h]
      | dropped t => rfl

theorem actsOf_calm (r : Nat) (seen : List (Sight φ α)) :
    actsOf r (seen.flatMap Sight.calm) = (actsOf r seen).flatMap Act.calm := by
  rw [actsOf, notesOf_calm, actsOf]
  induction notesOf r seen with
  | nil => rfl
  | cons note notes ih =>
      rw [List.flatMap_cons, List.filterMap_append, ih]
      cases note with
      | act a =>
          have hacts : (a.calm.map Note.act).filterMap Note.act? = a.calm := by
            rw [List.filterMap_map]
            exact List.filterMap_some
          rw [Note.calm, hacts]
          rfl
      | log entry =>
          have hlog : (Note.log entry : Note α).calm.filterMap Note.act? = [] := by
            obtain ⟨event, path⟩ := entry
            cases event <;> rfl
          rw [hlog, List.filterMap_cons_none rfl, List.nil_append]

end World

/-! ## Panics out of a unit of work -/

/-- A scheduler that never panics. -/
def Scheduler.Calm {ω S : Type} (s : Scheduler ω S) : Prop :=
  ∀ request w before payload, (s.take request w before).1 ≠ .panicked payload

namespace Bench

variable (b : Bench σ φ α)

theorem request_calm (h : ∀ d ∈ b.desks, d.scheduler.Calm) (desk : Nat) (when : Request)
    (w : Work σ φ) (payload : Payload) : (b.request desk when w).1 ≠ .panicked payload := by
  cases hd : b.desks[desk]? with
  | none => simp [request, hd]
  | some d =>
      rw [request_eq b hd]
      exact h d (List.mem_of_getElem? hd) when w _ payload

/-- Only the scheduler that is asked for a wait can make a unit of work panic. -/
theorem tick_calm (h : ∀ d ∈ b.desks, d.scheduler.Calm)
    (suspend : Clock (Work σ φ) → Duration → Work σ φ → Clock (Work σ φ)) (spans : List Log.Span)
    (payload : Payload) : ((Bench.tick suspend).run spans b).value ≠ .panicked payload := by
  simp only [tick, onRoster, Noted.run_bind, Noted.run_get]
  rcases b.clock.takeReady? with _ | ⟨⟨t⟩ | ⟨effect⟩, clock⟩
  · simp
  · simp only [Noted.run_bind, Noted.run_modify, Noted.run_focus]
    rcases (Roster.drive t).run spans b.roster with ⟨⟨t', pause⟩ | _ | ⟨delay, t'⟩, lines, c⟩
    · simp
    · simp
    · simp only [Noted.run_bind, Noted.run_get, Noted.run_modifyGet]
      generalize hrequested : Bench.request _ _ _ _ = requested
      have hcalm := request_calm (⟨c, clock, b.desks⟩ : Bench σ φ α) h
        ((c.runs[t.run]?.map fun r => r.config.scheduler).getD 0) (.after delay) (.attempt t')
      rw [hrequested] at hcalm
      rcases requested with ⟨_ | _ | payload', after⟩
      · simp
      · simp
      · exact absurd rfl (hcalm payload')
  · simp

end Bench

namespace World

/-- Panics of a run's check, operation and classifier are answers: where the code answers instead
that the client is gone, fails with the failure that the panic becomes, or rejects, the run notes
the same but for the panics themselves. Its outcome, the numbers of its checks and calls, what its
notifier and classifier are shown and the waits that it asks for do not change, and no panic is
left. A unit of work only panics if the scheduler does that it asks for a wait. -/
theorem panics_are_answers (env : σ) (ms : List (Move σ φ α)) :
    let seen := ((World.init env).play ms).1
    let seen' := ((World.init env).play (ms.map Move.calm)).1
    let w := ((World.init env).play ms).2
    let w' := ((World.init env).play (ms.map Move.calm)).2
    (∀ r, w'.roster.outcome? r = w.roster.outcome? r ∧
      notesOf r seen' = (notesOf r seen).flatMap Note.calm ∧
      (actsOf r seen').countP Act.checks = (actsOf r seen).countP Act.checks ∧
      (actsOf r seen').countP Act.calls = (actsOf r seen).countP Act.calls ∧
      (actsOf r seen').filterMap Act.notified? = (actsOf r seen).filterMap Act.notified? ∧
      (actsOf r seen').filterMap Act.classified? = (actsOf r seen).filterMap Act.classified? ∧
      (actsOf r seen').filterMap Act.request? = (actsOf r seen).filterMap Act.request? ∧
      ∀ a ∈ actsOf r seen', a.panics = false) ∧
    ∀ (b : Bench σ φ α) (spans : List Log.Span)
      (suspend : Clock (Work σ φ) → Duration → Work σ φ → Clock (Work σ φ)),
      (∀ d ∈ b.desks, d.scheduler.Calm) →
        ∀ payload, ((Bench.tick suspend).run spans b).value ≠ .panicked payload := by
  intro seen seen' w w'
  have hplay : (World.init env).play (ms.map Move.calm) = calmed ((World.init env).play ms) :=
    play_calm (World.init env) ms
  have hseen : seen' = seen.flatMap Sight.calm := congrArg Prod.fst hplay
  have hw : w' = w.calm := congrArg Prod.snd hplay
  refine ⟨fun r => ?_, fun b spans suspend hb payload => b.tick_calm hb suspend spans payload⟩
  have hacts : actsOf r seen' = (actsOf r seen).flatMap Act.calm := by
    rw [hseen, actsOf_calm]
  have hpanics : (actsOf r seen').countP Act.panics = 0 := by
    rw [hacts, Act.countP_calm (q := fun _ => false) fun a => a.calm_same.2.2.2.2.2]
    exact List.countP_eq_zero.mpr fun _ _ => nofun
  refine ⟨?_, ?_, ?_, ?_, ?_, ?_, ?_, ?_⟩
  · rw [hw]
    exact w.roster.outcome?_calm r
  · rw [hseen, notesOf_calm]
  · rw [hacts, Act.countP_calm fun a => a.calm_same.1]
  · rw [hacts, Act.countP_calm fun a => a.calm_same.2.1]
  · rw [hacts, Act.filterMap_calm fun a => a.calm_same.2.2.1]
  · rw [hacts, Act.filterMap_calm fun a => a.calm_same.2.2.2.1]
  · rw [hacts, Act.filterMap_calm fun a => a.calm_same.2.2.2.2.1]
  · simpa using List.countP_eq_zero.mp hpanics

/-- A run whose operation panics when it is called first and when it is polled later, and whose
classifier panics at the second failure. -/
def clumsy : Config Nat Unit Unit where
  action := "connect"
  session := "s-1"
  operation :=
    ⟨fun n => (if n = 0 then .panicked (.text "no socket") else .returned (), n + 1),
      fun _ n => (.done (.panicked (.text "reset")), n)⟩
  check := ⟨pure (.returned false)⟩
  scheduler := 0
  notifier := none
  classifier := ⟨fun _ n => (if n = 1 then .returned true else .panicked .other, n)⟩
  backoff := .standard

def clumsyMoves : List (Move Nat Unit Unit) :=
  .launch clumsy [] .kept :: List.replicate 2 (.poll 0 .kept)

/-- Without its three panics that run still ends on the failure of its second attempt, and none of
its attempts panics on a bench that keeps all work. -/
theorem panics_are_answers_clumsy :
    ((World.init 0).play (clumsyMoves.map Move.calm)).2.roster.outcome? 0 =
        some (.error (.fatal (.completion (.panic "reset")))) ∧
      (actsOf 0 ((World.init 0).play clumsyMoves).1).countP Act.panics = 3 ∧
      ∀ payload, ((Bench.tick Clock.pause).run []
        ((⟨.init 0, .init, [.faithful]⟩ : Bench Nat Unit Unit).perform
          (.launch clumsy [])).2).value ≠ .panicked payload := by
  obtain ⟨hruns, hticks⟩ := panics_are_answers 0 clumsyMoves
  refine ⟨(hruns 0).1, rfl, hticks _ [] Clock.pause fun d hd request w before payload => ?_⟩
  obtain rfl : d = ⟨Desk.faithful.scheduler, 1, []⟩ := List.mem_singleton.mp hd
  cases request <;> nofun

end World

end Reattempt
