import Reattempt.Proofs.Bench.Basic
import Reattempt.Proofs.Scheduler.Recorder

/-! # Benches without recorders

Runs whose schedulers are behind recorders do the same as runs that hand their work to the
schedulers directly. -/

namespace Reattempt

variable {σ φ α : Type}

namespace Bench

/-- The bench with nothing recorded. -/
def bare (b : Bench σ φ α) : Bench σ φ α :=
  { b with desks := b.desks.map fun d => { d with record := .empty } }

/-- Hands work to the scheduler of a desk, with no recorder in between. -/
def hand (b : Bench σ φ α) (desk : Nat) (when : Request) (w : Work σ φ) : Fate × Bench σ φ α :=
  match b.desks[desk]? with
  | none => (.lost, b.drop w)
  | some d =>
    let (fate, clock, env) := d.scheduler.take when w (b.clock, b.roster.env)
    let after := { b with roster := { b.roster with env := env }, clock := clock }
    match fate with
    | .kept => (.kept, after)
    | fate => (fate, after.drop w)

/-- What an action says and leaves where work is handed over by `ask`. -/
def performBy (ask : Bench σ φ α → Nat → Request → Work σ φ → Fate × Bench σ φ α)
    (b : Bench σ φ α) : Action σ φ α → List (Line α) × Bench σ φ α
  | .launch config spans =>
    let r := b.roster.runs.length
    let (fate, after) := ask { b with roster := b.roster.addRun ⟨config, spans, .waiting, 1⟩ }
      config.scheduler .now (.attempt ⟨r, 1, .queued⟩)
    ([⟨r, .act .submitted⟩], after.afterSubmit r fate)
  | .tick suspend =>
    match b.clock.takeReady? with
    | none => ([], b)
    | some (.errand effect, clock) =>
      ([], { b with clock := clock, roster := { b.roster with env := effect b.roster.env } })
    | some (.attempt t, clock) =>
      let told := (Roster.drive t).run [] b.roster
      let driven : Bench σ φ α := { b with clock := clock, roster := told.state }
      (told.notes, match told.value with
        | .suspended next pause => { driven with clock := suspend clock pause (.attempt next) }
        | .finished => driven
        | .handedOver delay next =>
          (ask driven ((told.state.runs[t.run]?.map fun r => r.config.scheduler).getD 0)
            (.after delay) (.attempt next)).2)
  | a => b.perform a

def playBy (ask : Bench σ φ α → Nat → Request → Work σ φ → Fate × Bench σ φ α) (b : Bench σ φ α) :
    List (Action σ φ α) → List (Line α) × Bench σ φ α
  | [] => ([], b)
  | a :: as =>
    let (lines, after) := b.performBy ask a
    let (rest, last) := after.playBy ask as
    (lines ++ rest, last)

variable (b : Bench σ φ α)

/-- The bench hands its work over through the recorders of its desks. -/
theorem performBy_request (a : Action σ φ α) : b.performBy request a = b.perform a := by
  cases a with
  | launch config spans => rw [perform_launch]; rfl
  | tick suspend =>
      rw [perform_tick, performBy]
      rcases b.clock.takeReady? with _ | ⟨⟨t⟩ | ⟨effect⟩, clock⟩
      · rfl
      · simp only
        cases ((Roster.drive t).run [] b.roster).value <;> rfl
      · rfl
  | _ => rfl

theorem playBy_request (as : List (Action σ φ α)) : b.playBy request as = b.play as := by
  induction as generalizing b with
  | nil => rfl
  | cons a as ih => simp only [playBy, performBy_request, ih, play_cons]

theorem getElem?_bare (desk : Nat) :
    b.bare.desks[desk]? = b.desks[desk]?.map fun d => { d with record := .empty } :=
  List.getElem?_map

theorem drop_bare (w : Work σ φ) : (b.drop w).bare = b.bare.drop w := by
  cases w <;> rfl

theorem hand_eq {desk : Nat} {d : Desk σ φ} (hd : b.desks[desk]? = some d) (when : Request)
    (w : Work σ φ) : b.hand desk when w =
      let taken := d.scheduler.take when w (b.clock, b.roster.env)
      let after : Bench σ φ α := ⟨{ b.roster with env := taken.2.2 }, taken.2.1, b.desks⟩
      (taken.1, if taken.1 = .kept then after else after.drop w) := by
  simp only [hand, hd]
  cases (d.scheduler.take when w (b.clock, b.roster.env)).1 <;> rfl

/-- A recorder leaves it to the scheduler what becomes of work. -/
theorem hand_bare (desk : Nat) (when : Request) (w : Work σ φ) :
    b.bare.hand desk when w = ((b.request desk when w).1, (b.request desk when w).2.bare) := by
  cases hd : b.desks[desk]? with
  | none =>
      simp only [hand, request, getElem?_bare, hd, Option.map_none, drop_bare]
  | some d =>
      have hd' : b.bare.desks[desk]? = some { d with record := .empty } := by
        rw [getElem?_bare, hd, Option.map_some]
      -- but for what is recorded, the desk that was asked is as before
      have hdesks : (b.desks.set desk { d with record := d.record.add when }).map
          (fun d => { d with record := .empty }) = b.bare.desks := by
        rw [List.map_set]
        refine List.ext_getElem? fun i => ?_
        by_cases hi : desk = i
        · subst hi
          rw [List.getElem?_set_self', List.getElem?_map, hd, hd']
          rfl
        · rw [List.getElem?_set_ne hi]
          rfl
      have hseen : (b.bare.clock, b.bare.roster.env) = (b.clock, b.roster.env) := rfl
      rw [request_eq b hd, hand_eq b.bare hd', hseen]
      generalize d.scheduler.take when w (b.clock, b.roster.env) = taken
      refine Prod.ext rfl ?_
      dsimp only
      split
      · exact congrArg (Bench.mk _ _) hdesks.symm
      · rw [drop_bare]
        exact congrArg (fun desks => drop ⟨_, _, desks⟩ w) hdesks.symm

theorem afterSubmit_bare (run : Nat) (fate : Fate) :
    (b.afterSubmit run fate).bare = b.bare.afterSubmit run fate := by
  cases fate <;> rfl

theorem shutdown_bare : b.shutdown.2.bare = b.bare.shutdown.2 := by
  have hfold : ∀ (ws : List (Work σ φ)) (b : Bench σ φ α),
      (ws.foldl drop b).bare = ws.foldl drop b.bare := by
    intro ws
    induction ws with
    | nil => exact fun _ => rfl
    | cons w ws ih =>
        intro b
        rw [List.foldl_cons, ih, drop_bare, List.foldl_cons]
  exact hfold b.clock.waiting { b with clock := b.clock.clear }

theorem perform_bare (a : Action σ φ α) :
    b.bare.performBy hand a = ((b.perform a).1, (b.perform a).2.bare) := by
  cases a with
  | launch config spans =>
      have hhand := hand_bare { b with roster := b.roster.addRun ⟨config, spans, .waiting, 1⟩ }
        config.scheduler .now (.attempt ⟨b.roster.runs.length, 1, .queued⟩)
      rw [perform_launch]
      refine Prod.ext rfl ?_
      dsimp only
      rw [afterSubmit_bare]
      exact congrArg (fun x => x.2.afterSubmit b.roster.runs.length x.1) hhand
  | tick suspend =>
      have hclock : b.bare.clock = b.clock := rfl
      rw [perform_tick, performBy, hclock]
      rcases b.clock.takeReady? with _ | ⟨⟨t⟩ | ⟨effect⟩, clock⟩
      · rfl
      · refine Prod.ext rfl ?_
        dsimp only
        have hroster : b.bare.roster = b.roster := rfl
        rw [hroster]
        generalize (Roster.drive t).run [] b.roster = told
        obtain ⟨driven, lines, c⟩ := told
        cases driven with
        | handedOver delay next =>
            exact congrArg Prod.snd (hand_bare ⟨c, clock, b.desks⟩ _ (.after delay) (.attempt next))
        | _ => rfl
      · rfl
  | shutdown => exact Prod.ext rfl b.shutdown_bare.symm
  | _ => rfl

/-- A bench does the same without its recorders. -/
theorem play_bare (as : List (Action σ φ α)) :
    b.bare.playBy hand as = ((b.play as).1, (b.play as).2.bare) := by
  induction as generalizing b with
  | nil => rfl
  | cons a as ih =>
      rw [playBy, perform_bare]
      simp only [ih, play_cons]

/-- A recorder is transparent and exact. Whatever is behind it and whatever calls were made of the
recorder, whether they panicked or not: all requests were handed on once, in their order, to what is
behind, which answered and was left as without the recorder; the record is that of the requests; and
the next call is answered from there. Questions are answered with the number of submissions, with
all delays, and with their exact sum or a panic. What is done on a bench, whose desks are all behind
recorders and which hands its work over through them, is the same as on the bench without any. -/
theorem recorder_transparent {ω S : Type} (inner : Scheduler ω S) (s : S) (calls : List (Call ω))
    (b : Bench σ φ α) (as : List (Action σ φ α)) :
    let requests := calls.filterMap Call.request?
    let delays := requests.filterMap fun request => request.1.delay?
    let played := Call.performAll inner calls (.fresh, s)
    let direct := inner.takeAll requests s
    (played.1.filterMap Answer.fate? = direct.1 ∧ played.2.2 = direct.2 ∧
      played.2.1.record = ⟨requests.countP fun request => request.1 = .now, delays⟩ ∧
      inner.recording.takeAll requests (.empty, s) = (direct.1, played.2.1.record, direct.2) ∧
      (Call.performAll inner.logged calls (.fresh, [], s)).2.2.1 = requests) ∧
    ((∀ when w, ((Call.request when w).perform inner played.2).1 =
        .taken (inner.take when w direct.2).1) ∧
      ((Call.question .submissions).perform inner played.2).1 =
        .told (.returned (.count (requests.countP fun request => request.1 = .now))) ∧
      ((Call.question .delays).perform inner played.2).1 = .told (.returned (.delays delays)) ∧
      ((Call.question .total).perform inner played.2).1 =
        .told (if h : (delays.map Duration.nanos).sum ≤ Duration.maxNanos then
          .returned (.total ⟨(delays.map Duration.nanos).sum, h⟩)
        else .panicked (.text Duration.overflowText))) ∧
    b.playBy request as = b.play as ∧
    b.bare.playBy hand as = ((b.play as).1, (b.play as).2.bare) := by
  intro requests delays played direct
  have hfresh : Guarded.fresh.record = .ofRequests ([] : List (Request × ω)) := rfl
  obtain ⟨hfates, hstate, hrecord⟩ := Call.performAll_eq inner calls hfresh s
  obtain ⟨hcount, hdelays, htotal⟩ := Question.ask_ofRequests requests
  have hquestion : ∀ q : Question, ((Call.question q).perform inner played.2).1 =
      .told (q.ask (.ofRequests requests)) := fun q =>
    (Call.perform_question inner q played.2).trans
      (congrArg (fun record => Answer.told (q.ask record)) hrecord)
  refine ⟨⟨hfates, hstate, hrecord, ?_, ?_⟩, ⟨?_, ?_, ?_, ?_⟩, b.playBy_request as, b.play_bare as⟩
  · rw [show played.2.1.record = .ofRequests requests from hrecord]
    exact inner.takeAll_recording requests [] s
  · have hlogged := (Call.performAll_eq inner.logged calls hfresh ([], s)).2.1
    rw [hlogged]
    exact inner.log_takeAll requests ([], s)
  · intro when w
    exact congrArg (fun t => Answer.taken (inner.take when w t).1) hstate
  · rw [hquestion, hcount]
  · rw [hquestion, hdelays]
  · rw [hquestion, htotal]

end Bench

end Reattempt
