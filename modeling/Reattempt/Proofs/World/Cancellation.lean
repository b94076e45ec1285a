import Reattempt.Proofs.Run.Aftermath
import Reattempt.Proofs.Scripted.Switch
import Reattempt.Proofs.World.Course
import Reattempt.Proofs.World.Custody
import Reattempt.Proofs.World.Exposed

/-! # Cancellation

A run whose check reads a switch, and what it may still do from any moment on at which the switch
is flipped: by its own callers' code, between two polls, or by others in the middle of a poll. -/

namespace Reattempt

variable {σ φ α : Type}

namespace Config

variable {c : Config σ φ α} {p q : Phase φ α} {m : Moment σ α} {ms : List (Moment σ α)}

/-- The reply of a check is the one that it gives in the state before it. -/
theorem Path.reply_of_checked {reply : Reply Bool} (h : c.Path p ms q) (hm : m ∈ ms)
    (ha : m.act = .checked reply) : (c.check.poll.run m.before).1 = reply := by
  obtain ⟨front, back, rfl⟩ := List.append_of_mem hm
  obtain ⟨p', q', -, hr, -⟩ := h.split_cons
  cases hr with
  | pass hc =>
      cases ha
      rw [hc]
  | stop hc _ =>
      cases ha
      rw [hc]
  | _ => cases ha

/-- After a check that found the client gone, the run settles as cancelled. -/
theorem start_of_gone (c : Config σ φ α) {s : σ} (h : (c.check.poll.run s).1 = .returned true)
    (attempt : UInt32) (path : List Log.Span) :
    ((c.start attempt).run path s).value = .settled (.error (.cancelled c.session)) ∧
      (c.startTrail s).map Moment.act = [.checked (.returned true)] := by
  rcases hp : c.check.poll.run s with ⟨reply, t⟩
  rw [hp] at h
  cases h
  rw [run_start, startTrail, hp]
  exact ⟨rfl, rfl⟩

end Config

theorem Run.trail_of_gone (run : Run σ φ α) {r : Nat} {attempt : UInt32} {s : σ}
    (h : (run.config.check.poll.run s).1 = .returned true) :
    (run.trail ⟨r, attempt, .queued⟩ s).map Moment.act =
      [.checked (.returned true), .settled (.error (.cancelled run.config.session))] := by
  obtain ⟨hvalue, htrail⟩ := run.config.start_of_gone h attempt (run.path attempt)
  simp only [Run.trail, Config.proceed, Config.proceedTrail, hvalue, List.map_append, htrail]
  rfl

namespace World

/-- What a run does before and after a moment at which a switch is flipped: right after an act of
its own, and so in the middle of a poll, or between two moves, whatever they are about. -/
inductive Cut (flipped : σ → Bool) (env : σ) (ms : List (Move σ φ α)) (r : Nat) :
    List (Moment σ α) → List (Moment σ α) → Prop where
  | within {front m later} (h : (World.init env).timeline r ms = front ++ m :: later)
      (hm : flipped m.after = true) : Cut flipped env ms r (front ++ [m]) later
  | between {past future} (h : ms = past ++ future)
      (hf : flipped ((World.init env).play past).2.roster.env = true) :
      Cut flipped env ms r ((World.init env).timeline r past)
        (((World.init env).play past).2.timeline r future)

variable {flipped : σ → Bool} {env : σ} {ms : List (Move σ φ α)} {r : Nat}
  {before later : List (Moment σ α)}

theorem Cut.timeline_eq (h : Cut flipped env ms r before later) :
    (World.init env).timeline r ms = before ++ later := by
  cases h with
  | within h _ => simp [h]
  | between h _ =>
      subst h
      exact timeline_append ..

theorem Cut.stays (h : Cut flipped env ms r before later)
    (hk : ∀ m ∈ ms, m.Keeps fun s => flipped s = true) :
    (∀ m ∈ later, flipped m.before = true) ∧
      flipped ((World.init env).play ms).2.roster.env = true := by
  cases h with
  | within h hm =>
      have hflow := ((balanced_init env).flow_play (by simp [configs, World.init, Roster.init])
        hk r).1
      rw [h] at hflow
      exact hflow.after.holds hm
  | between h hf =>
      subst h
      obtain ⟨hpast, hfuture⟩ := List.forall_mem_append.mp hk
      have hw := ((balanced_init env).flow_play (by simp [configs, World.init, Roster.init])
        hpast r).2
      have hflow := ((balanced env _).flow_play hw hfuture r).1
      rw [play_append]
      exact hflow.holds hf

/-- What a run does after a moment at which a switch is flipped that its check reads. -/
theorem Cut.aftermath {run : Run σ φ α} (hc : Cut flipped env ms r before later)
    (hr : ((World.init env).play ms).2.roster.runs[r]? = some run)
    (hh : run.config.Heeds flipped) (hk : ∀ m ∈ ms, m.Keeps fun s => flipped s = true) :
    actsOf r ((World.init env).play ms).1 = before.map Moment.act ++ later.map Moment.act ∧
      run.config.Aftermath (before.map Moment.act) (later.map Moment.act) := by
  obtain ⟨q, path, rest⟩ := exists_path env ms hr
  rw [hc.timeline_eq] at path
  obtain ⟨p, hbefore, hafter⟩ := path.split
  refine ⟨((balanced env ms).acts r).trans (by rw [hc.timeline_eq, List.map_append]), ?_⟩
  refine hbefore.aftermath hafter rest fun reply hreply => ?_
  obtain ⟨m, hm, hact⟩ := List.mem_map.mp hreply
  rw [← hafter.reply_of_checked hm hact, hh, (hc.stays hk).1 m hm]

/-- A queued attempt whose check finds the client gone settles its run when it is polled. -/
theorem settles_of_gone {run : Run σ φ α} {place : Nat} {n : UInt32}
    (hr : ((World.init env).play ms).2.roster.runs[r]? = some run)
    (hgone : (run.config.check.poll.run ((World.init env).play ms).2.roster.env).1 =
      .returned true)
    (ht : ((World.init env).play ms).2.held[place]? = some ⟨r, n, .queued⟩) (fate : Fate) :
    let polled := ((World.init env).play ms).2.perform (.poll place fate)
    actsOf r polled.1 =
        [.checked (.returned true), .settled (.error (.cancelled run.config.session))] ∧
      polled.2.roster.outcome? r = some (.error (.cancelled run.config.session)) := by
  intro polled
  have hlt := (List.getElem?_eq_some_iff.mp hr).1
  have hacts : actsOf r polled.1 =
      [.checked (.returned true), .settled (.error (.cancelled run.config.session))] := by
    rw [acts_perform, trail_poll ht hr fate, if_pos rfl]
    exact run.trail_of_gone hgone
  have hnone := (custody env ms hlt).settled_of_mem
    (List.mem_filter.mpr ⟨List.mem_of_getElem? ht, decide_eq_true rfl⟩)
  have hlate := custody env (ms ++ [.poll place fate]) (length_runs_play env ms _ hlt)
  simp only [play_append, play_singleton, settlementsOf_append, hnone, List.nil_append] at hlate
  rw [settlementsOf, hacts] at hlate
  exact ⟨hacts, hlate.told_of_mem List.mem_cons_self⟩

/-- What a run is bound to by a flip of the switch that its check reads: what it does before and
after that in a play, and how it goes on after the play. -/
structure Bound (env : σ) (ms : List (Move σ φ α)) (r : Nat) (c : Config σ φ α)
    (before later : List (Act α)) : Prop where
  acts : actsOf r ((World.init env).play ms).1 = before ++ later
  aftermath : c.Aftermath before later
  /-- Observers are told what the run settles with. -/
  told : ∀ outcome, .settled outcome ∈ before ++ later →
    ((World.init env).play ms).2.roster.outcome? r = some outcome
  /-- Until they are told an outcome, the run has a ticket, which is held. -/
  held : ((World.init env).play ms).2.roster.outcome? r = none →
    ∃ t, ((World.init env).play ms).2.heldBy r = [t]
  /-- The run goes on when that is polled. -/
  goes_on : ∀ place t fate, ((World.init env).play ms).2.held[place]? = some t → t.run = r →
    actsOf r (((World.init env).play ms).2.perform (.poll place fate)).1 ≠ []
  /-- A queued attempt does nothing but poll the check and settle the run. -/
  stops : ∀ place n fate, ((World.init env).play ms).2.held[place]? = some ⟨r, n, .queued⟩ →
    let polled := ((World.init env).play ms).2.perform (.poll place fate)
    actsOf r polled.1 = [.checked (.returned true), .settled (.error (.cancelled c.session))] ∧
      polled.2.roster.outcome? r = some (.error (.cancelled c.session))

theorem Cut.bound {run : Run σ φ α} (hc : Cut flipped env ms r before later)
    (hr : ((World.init env).play ms).2.roster.runs[r]? = some run)
    (hh : run.config.Heeds flipped) (hk : ∀ m ∈ ms, m.Keeps (flipped ·)) :
    Bound env ms r run.config (before.map Moment.act) (later.map Moment.act) := by
  obtain ⟨hacts, hafter⟩ := hc.aftermath hr hh hk
  have hcust := custody env ms (List.getElem?_eq_some_iff.mp hr).1
  constructor
  case acts => exact hacts
  case aftermath => exact hafter
  case told =>
    intro outcome hsettled
    rw [← hacts] at hsettled
    exact hcust.told_of_mem (List.mem_filterMap.mpr ⟨_, hsettled, rfl⟩)
  case held => exact hcust.held_of_pending
  case goes_on =>
    intro place t fate ht htr
    subst htr
    exact acts_poll_ne_nil env ms hr ht fate
  case stops =>
    intro place n fate ht
    have hgone := (hh _).trans (congrArg Reply.returned (hc.stays hk).2)
    exact settles_of_gone hr hgone ht fate

/-- Where a switch is flipped at some moment and nothing flips it back, the run whose check reads it
calls its operation no more, but for an attempt whose check has passed already and whose operation
is to be called next. The attempt that is under way is driven on and counts as ever: its value, or
its failure if that is rejected, is what is told. Unless it decides the run, at most one more
attempt is asked for, and the run settles as cancelled when that is made: until then its ticket is
held, and polling the ticket of a queued attempt does nothing but poll the check and settle. The
same holds where others come in between any two answers of callers' code, and flip the switch in the
middle of a poll. -/
theorem cancellation_bound (flipped : σ → Bool) (ms : List (Move σ φ α)) (r : Nat)
    (hk : ∀ m ∈ ms, m.Keeps (flipped ·)) :
    (∀ env run before later, ((World.init env).play ms).2.roster.runs[r]? = some run →
      run.config.Heeds flipped → Cut flipped env ms r before later →
        Bound env ms r run.config (before.map Moment.act) (later.map Moment.act)) ∧
      ∀ (env : Exposed (flipped ·)) run before later (c : Config σ φ α),
        ((World.init env).play (ms.map Move.exposed)).2.roster.runs[r]? = some run →
          run.config = c.exposed → c.Heeds flipped →
            Cut (fun s => flipped s.env) env (ms.map Move.exposed) r before later →
              Bound env (ms.map Move.exposed) r c.exposed (before.map Moment.act)
                (later.map Moment.act) := by
  constructor
  · intro env run before later hr hh hc
    exact hc.bound hr hh hk
  · intro env run before later c hr hrun hh hc
    rw [← hrun]
    refine hc.bound hr (hrun ▸ hh.exposed) ?_
    exact List.forall_mem_map.mpr fun m hm => (hk m hm).exposed

/-- A scripted run whose first attempt fails, and whose second one would not. -/
def overtaken : Config Scripted.Fixture (Scripted.Playing Nat) Nat where
  action := "connect"
  session := "s-1"
  operation := (Scripted.Script.ofCues "connect"
    [⟨1, none, none, 0, none, .failure (.ofText "down")⟩] 0).operation 0
  check := (⟨"connect", none, some "off", [], false⟩ : Scripted.CheckScript).check 1
  scheduler := 0
  notifier := none
  classifier := .always
  backoff := .standard

theorem heeds_overtaken : overtaken.Heeds fun f => f.isCancelled "off" :=
  Scripted.CheckScript.heeds rfl rfl rfl

theorem keeps_overtaken : overtaken.Keeps (Scripted.Flipped "off") :=
  Scripted.IsScripted.keeps
    ⟨⟨_, _, rfl⟩, ⟨_, _, rfl⟩, by simp [overtaken], ⟨.always, 0, rfl⟩⟩ "off"

/-- Its first attempt is made. -/
def overtakenMoves : List (Move Scripted.Fixture (Scripted.Playing Nat) Nat) :=
  [.launch overtaken [] .kept, .poll 0 .kept]

/-- Its second attempt is made too, and then the switch is flipped. -/
def outrunMoves : List (Move Scripted.Fixture (Scripted.Playing Nat) Nat) :=
  overtakenMoves ++ [.poll 0 .kept, .outside fun f => f.cancel "off"]

theorem keeps_outrunMoves : ∀ m ∈ outrunMoves, m.Keeps (Scripted.Flipped "off") := by
  simp only [outrunMoves, overtakenMoves, List.cons_append, List.nil_append, List.forall_mem_cons]
  exact ⟨keeps_overtaken, trivial, trivial, fun f h => f.flipped_cancel "off" h, by simp⟩

/-- Others flip the switch as soon as the first check has passed. -/
def overtakenStart : Exposed fun f : Scripted.Fixture => f.isCancelled "off" = true :=
  ⟨⟨[0, 0], [], []⟩, [⟨fun f => f.cancel "off", fun f h => f.flipped_cancel "off" h⟩]⟩

/-- What the first check leaves, before others come in. -/
def overtakenCheck : Scripted.Fixture :=
  ⟨[0, 1], [], [.checked "connect" 1 (.returned false)]⟩

/-- The run is cut right after its first check, which has passed. All else that its first attempt
does is done after the flip. -/
theorem cut_overtaken : ∃ later,
    Cut (fun s => s.env.isCancelled "off") overtakenStart (overtakenMoves.map Move.exposed) 0
        ([⟨overtakenStart, .submitted, overtakenStart⟩] ++
          [⟨overtakenStart, .checked (.returned false), ⟨overtakenCheck.cancel "off", []⟩⟩]) later ∧
      later.map Moment.act = [.called (.returned ()),
        .polled (some (.returned (.error (.ofText "down")))),
        .classified (.ofText "down") (.returned true), .requested (.ofSecs 1)] := by
  refine ⟨_, .within (by with_unfolding_all rfl) overtakenCheck.isCancelled_cancel, ?_⟩
  with_unfolding_all rfl

/-- If the switch is flipped before anything is done, the first check settles the run. If others
flip it as soon as that check has passed, the operation is called nevertheless, and fails; one more
attempt is asked for, and its check settles the run. -/
theorem cancellation_bound_overtaken :
    ((World.init ⟨[0, 0], ["off"], []⟩).play overtakenMoves).2.roster.outcome? 0 =
        some (.error (.cancelled "s-1")) ∧
      let w := ((World.init overtakenStart).play (overtakenMoves.map Move.exposed)).2
      (w.perform (.poll 0 .kept)).2.roster.outcome? 0 = some (.error (.cancelled "s-1")) := by
  have hkeeps := (List.forall_mem_append.mp keeps_outrunMoves).1
  obtain ⟨plain, exposed⟩ :=
    cancellation_bound (fun f : Scripted.Fixture => f.isCancelled "off") overtakenMoves 0 hkeeps
  constructor
  · have hrun : ((World.init ⟨[0, 0], ["off"], []⟩).play overtakenMoves).2.roster.runs[0]? =
        some ⟨overtaken, [], .settled (.error (.cancelled "s-1")), 1⟩ := by
      with_unfolding_all rfl
    have hacts : actsOf 0 ((World.init ⟨[0, 0], ["off"], []⟩).play overtakenMoves).1 =
        [.submitted, .checked (.returned true), .settled (.error (.cancelled "s-1"))] := by
      with_unfolding_all rfl
    have hbound := plain ⟨[0, 0], ["off"], []⟩ _ _ _ hrun heeds_overtaken
      (.between (List.nil_append _).symm (by decide))
    refine hbound.told _ ?_
    rw [← hbound.acts, hacts]
    simp
  · have hrun : ((World.init overtakenStart).play
        (overtakenMoves.map Move.exposed)).2.roster.runs[0]? =
          some ⟨overtaken.exposed, [], .waiting, 1⟩ := by
      with_unfolding_all rfl
    have hheld : ((World.init overtakenStart).play
        (overtakenMoves.map Move.exposed)).2.held[0]? = some ⟨0, 2, .queued⟩ := by
      with_unfolding_all rfl
    obtain ⟨later, hcut, -⟩ := cut_overtaken
    have hbound := exposed overtakenStart ⟨overtaken.exposed, [], .waiting, 1⟩ _ later
      overtaken hrun rfl heeds_overtaken hcut
    exact (hbound.stops 0 2 .kept hheld).2

/-- Two flips that a run no longer heeds, though nothing flips them back: after one that comes when
its check has passed, its operation is called; and after one that comes when it has settled, it
still has its value. -/
theorem late_flips_missed :
    overtaken.Heeds (fun f => f.isCancelled "off") ∧
      (∀ m ∈ outrunMoves, m.Keeps (Scripted.Flipped "off")) ∧
      (∃ before later, Cut (fun s => s.env.isCancelled "off") overtakenStart
        (overtakenMoves.map Move.exposed) 0 before later ∧
          .called (.returned ()) ∈ later.map Moment.act) ∧
      ∃ before, Cut (fun f => f.isCancelled "off") ⟨[0, 0], [], []⟩ outrunMoves 0 before [] ∧
        ((World.init ⟨[0, 0], [], []⟩).play outrunMoves).2.roster.outcome? 0 = some (.ok 0) := by
  refine ⟨heeds_overtaken, keeps_outrunMoves, ?_, ?_⟩
  · obtain ⟨later, hcut, hlater⟩ := cut_overtaken
    refine ⟨_, later, hcut, ?_⟩
    rw [hlater]
    exact List.mem_cons_self
  · have hflipped :
        ((World.init ⟨[0, 0], [], []⟩).play outrunMoves).2.roster.env.isCancelled "off" = true := by
      rw [outrunMoves, play_append]
      exact Scripted.Fixture.isCancelled_cancel _
    exact ⟨_, .between (List.append_nil outrunMoves).symm hflipped, by with_unfolding_all rfl⟩

end World

end Reattempt
