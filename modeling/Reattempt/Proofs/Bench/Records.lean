import Reattempt.Proofs.Bench.Basic
import Reattempt.Proofs.Run.Tally
import Reattempt.Proofs.World.Origins

/-! # What recorders remember

The record of a desk holds one submission for each run that was started there, and the requested
delays of those runs in the order in which they were requested. -/

namespace Reattempt

variable {σ φ α : Type}

/-! ## The requests of a driven ticket -/

namespace Config

variable (c : Config σ φ α) (s : σ)

theorem requests_failTrail (f : Failure) :
    ((c.failTrail f s).map Moment.act).filterMap Act.request? = [] := by
  unfold failTrail
  split <;> rfl

theorem requests_resumeTrail (operation : φ) :
    ((c.resumeTrail operation s).map Moment.act).filterMap Act.request? = [] := by
  unfold resumeTrail
  rcases (c.operation.poll operation).run s with ⟨⟨next, pause⟩ | ((f | value) | payload), t⟩
  · rfl
  · exact c.requests_failTrail t f
  · rfl
  · exact c.requests_failTrail t _

theorem requests_startTrail :
    ((c.startTrail s).map Moment.act).filterMap Act.request? = [] := by
  unfold startTrail
  rcases c.check.poll.run s with ⟨(_ | _) | payload, t⟩
  · have hcall : ((c.callTrail t).map Moment.act).filterMap Act.request? = [] := by
      unfold callTrail
      rcases c.operation.call.run t with ⟨operation | payload, u⟩
      · exact c.requests_resumeTrail u operation
      · exact c.requests_failTrail u _
    exact hcall
  · rfl
  · rfl

/-- An attempt asks for nothing until it is over. -/
theorem requests_proceed (attempt : UInt32) (stage : Stage φ) (path : List Log.Span) :
    ((c.proceed attempt stage).run path s).acts.filterMap Act.request? = [] := by
  have hattempt : UInt32.ofNat attempt.toNat = attempt := UInt32.ofNat_toNat
  rw [← hattempt]
  cases stage with
  | queued =>
      rw [proceed, (c.start_traced path s attempt.toNat).acts]
      exact c.requests_startTrail s
  | underway operation =>
      rw [proceed, (c.resume_traced path s attempt.toNat operation).acts]
      exact c.requests_resumeTrail s operation

end Config

def Note.request? (note : Note α) : Option Duration := note.act?.bind Act.request?

def Driven.delay? : Driven φ → Option Duration
  | handedOver delay _ => some delay
  | _ => none

namespace Roster

/-- Driving a ticket requests the delay after which it is handed over, and nothing else. -/
theorem requests_drive (c : Roster σ φ α) (t : Ticket φ) (spans : List Log.Span) :
    let told := (drive t).run spans c
    (told.notes.filterMap fun line => line.note.request?) = told.value.delay?.toList := by
  cases hr : c.runs[t.run]? with
  | none =>
      rw [run_drive_none hr]
      rfl
  | some run =>
      have hnone := run.config.requests_proceed c.env t.attempt t.stage (run.path t.attempt)
      have hrequest : ∀ notes : List (Note α),
          ((notes.map (Line.mk t.run)).filterMap fun line => line.note.request?) =
            (notes.filterMap Note.act?).filterMap Act.request? := by
        intro notes
        rw [List.filterMap_map, List.filterMap_filterMap]
        rfl
      rw [run_drive hr]
      simp only [Told.acts] at hnone
      dsimp only
      generalize (run.config.proceed t.attempt t.stage).run _ _ = told at *
      obtain ⟨step, notes, s⟩ := told
      cases step with
      | suspended operation pause => exact (hrequest notes).trans hnone
      | settled outcome =>
          have hunheard : ((⟨s, c.runs⟩ : Roster σ φ α).unheard t.run
              (run.path t.attempt)).filterMap Note.act? = [] := filterMap_unheard _ _ _ rfl
          simp only [run_settle]
          rw [List.filterMap_append, hrequest, hrequest, hnone]
          exact congrArg (fun acts => (Act.settled outcome :: acts).filterMap Act.request?) hunheard
      | retry delay =>
          rw [List.filterMap_append, hrequest, hnone]
          rfl

/-- Driving a ticket changes no configuration. -/
theorem map_drive {β : Type} {g : Run σ φ α → β}
    (hg : ∀ run slot, g { run with slot := slot } = g run) (c : Roster σ φ α) (t : Ticket φ)
    (spans : List Log.Span) :
    ((drive t).run spans c).state.runs.map g = c.runs.map g := by
  cases hr : c.runs[t.run]? with
  | none => rw [run_drive_none hr]
  | some run =>
      rw [run_drive hr]
      dsimp only
      generalize (run.config.proceed t.attempt t.stage).run _ _ = told
      obtain ⟨step, notes, s⟩ := told
      cases step with
      | settled outcome =>
          simp only [run_settle]
          exact Roster.map_modify _ _ fun run => hg run _
      | _ => rfl

def schedulers (c : Roster σ φ α) : List Nat := c.runs.map fun run => run.config.scheduler

theorem schedulers_drive (c : Roster σ φ α) (t : Ticket φ) (spans : List Log.Span) :
    ((drive t).run spans c).state.schedulers = c.schedulers :=
  c.map_drive (fun _ _ => rfl) t spans

theorem schedulers_drop (c : Roster σ φ α) (t : Ticket φ) : (c.drop t).schedulers = c.schedulers :=
  Roster.map_modify _ _ fun _ => rfl

theorem schedulers_observed (c : Roster σ φ α) (run : Nat) (f : Nat → Nat) :
    (c.modifyRun run fun run => { run with observers := f run.observers }).schedulers =
      c.schedulers :=
  Roster.map_modify _ _ fun _ => rfl

end Roster

namespace Bench

/-- The delay that a line requests of a desk, if its run has that scheduler. -/
def delayAt (schedulers : List Nat) (desk : Nat) (line : Line α) : Option Duration :=
  if schedulers[line.run]? = some desk then line.note.request? else none

/-- What a desk should have recorded. -/
def recordAt (schedulers : List Nat) (desk : Nat) (lines : List (Line α)) : Record :=
  ⟨schedulers.count desk, lines.filterMap (delayAt schedulers desk)⟩

/-- Every desk has recorded what was requested of it. -/
structure Recorded (b : Bench σ φ α) (lines : List (Line α)) : Prop where
  known : ∀ line ∈ lines, line.run < b.roster.schedulers.length
  records : ∀ i d, b.desks[i]? = some d → d.record = recordAt b.roster.schedulers i lines

variable {b : Bench σ φ α} {lines : List (Line α)}

theorem drop_records (b : Bench σ φ α) (w : Work σ φ) :
    (b.drop w).roster.schedulers = b.roster.schedulers ∧ (b.drop w).desks = b.desks := by
  cases w with
  | attempt t => exact ⟨b.roster.schedulers_drop t, rfl⟩
  | errand effect => exact ⟨rfl, rfl⟩

theorem getElem?_set_add {desks : List (Desk σ φ)} {desk : Nat} {d : Desk σ φ}
    (hd : desks[desk]? = some d) (when : Request) {i : Nat} {d' : Desk σ φ}
    (hi : (desks.set desk { d with record := d.record.add when })[i]? = some d') :
    ∃ d₀, desks[i]? = some d₀ ∧
      d'.record = if i = desk then d₀.record.add when else d₀.record := by
  by_cases h : i = desk
  · subst h
    rw [List.getElem?_set_self (List.getElem?_eq_some_iff.mp hd).1] at hi
    cases hi
    exact ⟨d, hd, (if_pos rfl).symm⟩
  · rw [List.getElem?_set_ne (Ne.symm h)] at hi
    exact ⟨d', hi, (if_neg h).symm⟩

/-- A request is recorded at its desk, whatever becomes of the work. -/
theorem request_records (b : Bench σ φ α) (desk : Nat) (when : Request) (w : Work σ φ) :
    (b.request desk when w).2.roster.schedulers = b.roster.schedulers ∧
      ∀ i d, (b.request desk when w).2.desks[i]? = some d →
        ∃ d₀, b.desks[i]? = some d₀ ∧
          d.record = if i = desk then d₀.record.add when else d₀.record := by
  cases hd : b.desks[desk]? with
  | none =>
      obtain ⟨hschedulers, hdesks⟩ := b.drop_records w
      simp only [request, hd]
      refine ⟨hschedulers, fun i d hi => ?_⟩
      rw [hdesks] at hi
      refine ⟨d, hi, (if_neg ?_).symm⟩
      rintro rfl
      rw [hd] at hi
      cases hi
  | some d =>
      rw [request_eq b hd]
      dsimp only
      split
      · exact ⟨rfl, fun i d' => getElem?_set_add hd when⟩
      · rw [(drop_records _ w).1, (drop_records _ w).2]
        exact ⟨rfl, fun i d' => getElem?_set_add hd when⟩

theorem afterSubmit_records (b : Bench σ φ α) (run : Nat) (fate : Fate) :
    (b.afterSubmit run fate).roster.schedulers = b.roster.schedulers ∧
      (b.afterSubmit run fate).desks = b.desks := by
  cases fate with
  | panicked payload => exact ⟨b.roster.schedulers_observed run (· - 1), rfl⟩
  | _ => exact ⟨rfl, rfl⟩

/-- A started run is a submission at its scheduler. -/
theorem recordAt_launch {schedulers : List Nat} (h : ∀ line ∈ lines, line.run < schedulers.length)
    (scheduler i : Nat) :
    recordAt (schedulers ++ [scheduler]) i (lines ++ [⟨schedulers.length, .act .submitted⟩]) =
      if i = scheduler then (recordAt schedulers i lines).add .now
      else recordAt schedulers i lines := by
  have hold : lines.filterMap (delayAt (schedulers ++ [scheduler]) i) =
      lines.filterMap (delayAt schedulers i) := by
    refine List.filterMap_congr fun line hline => ?_
    rw [delayAt, delayAt, List.getElem?_append_left (h line hline)]
  have hnew : ([⟨schedulers.length, .act .submitted⟩] : List (Line α)).filterMap
      (delayAt (schedulers ++ [scheduler]) i) = [] := by
    rw [List.filterMap_eq_nil_iff]
    intro line hline
    rw [List.mem_singleton.mp hline]
    exact ite_self _
  rw [recordAt, List.filterMap_append, hold, hnew, List.append_nil, List.count_append]
  by_cases hi : i = scheduler
  · simp [hi, recordAt, Record.add]
  · simp [hi, recordAt, Ne.symm hi]

/-- What is said of one run asks only its scheduler. -/
theorem filterMap_delayAt {schedulers : List Nat} {r : Nat} (h : ∀ line ∈ lines, line.run = r)
    (i : Nat) : lines.filterMap (delayAt schedulers i) = if schedulers[r]? = some i then
      lines.filterMap (fun line => line.note.request?) else [] := by
  split
  · next hi =>
      refine List.filterMap_congr fun line hline => ?_
      rw [delayAt, h line hline, if_pos hi]
  · next hi =>
      rw [List.filterMap_eq_nil_iff]
      intro line hline
      rw [delayAt, h line hline, if_neg hi]

theorem recordAt_append {schedulers : List Nat} {more : List (Line α)} {r scheduler : Nat}
    (hr : ∀ line ∈ more, line.run = r) (hs : schedulers[r]? = some scheduler) (i : Nat) :
    recordAt schedulers i (lines ++ more) = ⟨(recordAt schedulers i lines).submissions,
      (recordAt schedulers i lines).delays ++
        if i = scheduler then more.filterMap (fun line => line.note.request?) else []⟩ := by
  rw [recordAt, List.filterMap_append, filterMap_delayAt hr, hs]
  simp only [Option.some.injEq, eq_comm, recordAt]

/-- What a driven run requests is recorded at the desk of its scheduler. -/
theorem afterDrive_records (b : Bench σ φ α)
    (suspend : Clock (Work σ φ) → Duration → Work σ φ → Clock (Work σ φ)) {run scheduler : Nat}
    (hs : b.roster.schedulers[run]? = some scheduler) (driven : Driven φ) :
    (b.afterDrive suspend run driven).roster.schedulers = b.roster.schedulers ∧
      ∀ i (d : Desk σ φ), (b.afterDrive suspend run driven).desks[i]? = some d →
        ∃ d₀ : Desk σ φ, b.desks[i]? = some d₀ ∧ d.record = ⟨d₀.record.submissions,
          d₀.record.delays ++ if i = scheduler then driven.delay?.toList else []⟩ := by
  cases driven with
  | handedOver delay t =>
      have hdesk : (b.roster.runs[run]?.map fun r => r.config.scheduler).getD 0 = scheduler := by
        rw [← List.getElem?_map]
        exact congrArg (Option.getD · 0) hs
      simp only [afterDrive, hdesk]
      obtain ⟨hschedulers, hdesks⟩ := b.request_records scheduler (.after delay) (.attempt t)
      refine ⟨hschedulers, fun i d hd => ?_⟩
      obtain ⟨d₀, hd₀, heq⟩ := hdesks i d hd
      refine ⟨d₀, hd₀, heq.trans ?_⟩
      split <;> simp [Record.add, Driven.delay?]
  | _ => exact ⟨rfl, fun i d hd => ⟨d, hd, by simp [Driven.delay?]⟩⟩

theorem Recorded.launch (h : Recorded b lines) (config : Config σ φ α) (spans : List Log.Span) :
    Recorded (b.perform (.launch config spans)).2
      (lines ++ (b.perform (.launch config spans)).1) := by
  have hlen : b.roster.runs.length = b.roster.schedulers.length := (List.length_map _).symm
  have hadd : (b.roster.addRun ⟨config, spans, .waiting, 1⟩).schedulers =
      b.roster.schedulers ++ [config.scheduler] := List.map_append
  have hq := request_records { b with roster := b.roster.addRun ⟨config, spans, .waiting, 1⟩ }
    config.scheduler .now (.attempt ⟨b.roster.runs.length, 1, .queued⟩)
  rw [perform_launch]
  dsimp only at hq ⊢
  generalize Bench.request _ config.scheduler _ _ = requested at hq ⊢
  obtain ⟨fate, after⟩ := requested
  obtain ⟨hschedulers, hdesks⟩ := hq
  obtain ⟨hsame, hsubmit⟩ := after.afterSubmit_records b.roster.runs.length fate
  rw [hadd] at hschedulers
  refine ⟨fun line hline => ?_, fun i d hd => ?_⟩
  · rw [hsame, hschedulers, List.length_append]
    rcases List.mem_append.mp hline with hline | hline
    · exact Nat.lt_succ_of_lt (h.known line hline)
    · rw [List.mem_singleton.mp hline, hlen]
      exact Nat.lt_succ_self _
  · rw [hsubmit] at hd
    obtain ⟨d', hd', hrecord⟩ := hdesks i d hd
    rw [hsame, hschedulers, hlen, recordAt_launch h.known, hrecord, h.records i d' hd']

theorem Recorded.tick (h : Recorded b lines)
    (suspend : Clock (Work σ φ) → Duration → Work σ φ → Clock (Work σ φ)) :
    Recorded (b.perform (.tick suspend)).2 (lines ++ (b.perform (.tick suspend)).1) := by
  rw [perform_tick]
  rcases b.clock.takeReady? with _ | ⟨⟨t⟩ | ⟨effect⟩, clock⟩
  · rw [List.append_nil]
    exact h
  · cases hr : b.roster.runs[t.run]? with
    | none =>
        dsimp only
        rw [Roster.run_drive_none hr, List.append_nil]
        exact ⟨h.known, h.records⟩
    | some run =>
        have hs : b.roster.schedulers[t.run]? = some run.config.scheduler := by
          rw [Roster.schedulers, List.getElem?_map, hr]
          rfl
        have hsame := b.roster.schedulers_drive t []
        have hrequests := b.roster.requests_drive t []
        have hruns := Roster.run_of_mem_drive b.roster t []
        dsimp only at hrequests ⊢
        generalize (Roster.drive t).run [] b.roster = told at *
        obtain ⟨hschedulers, hdesks⟩ := afterDrive_records
          (⟨told.state, clock, b.desks⟩ : Bench σ φ α) suspend (hsame ▸ hs) told.value
        refine ⟨fun line hline => ?_, fun i d hd => ?_⟩
        · rw [hschedulers, hsame]
          rcases List.mem_append.mp hline with hline | hline
          · exact h.known line hline
          · rw [hruns line hline]
            exact (List.getElem?_eq_some_iff.mp hs).1
        · obtain ⟨d₀, hd₀, heq⟩ := hdesks i d hd
          rw [heq, h.records i d₀ hd₀, hschedulers, hsame, recordAt_append hruns hs, hrequests]
  · rw [List.append_nil]
    exact ⟨h.known, h.records⟩

theorem foldl_drop_records (ws : List (Work σ φ)) (b : Bench σ φ α) :
    (ws.foldl drop b).roster.schedulers = b.roster.schedulers ∧
      (ws.foldl drop b).desks = b.desks := by
  induction ws generalizing b with
  | nil => exact ⟨rfl, rfl⟩
  | cons w ws ih =>
      obtain ⟨hschedulers, hdesks⟩ := b.drop_records w
      rw [List.foldl_cons, (ih _).1, (ih _).2]
      exact ⟨hschedulers, hdesks⟩

/-- An action that starts and polls nothing requests nothing. -/
theorem Recorded.of_same (h : Recorded b lines) {after : Bench σ φ α}
    (hs : after.roster.schedulers = b.roster.schedulers) (hd : after.desks = b.desks) :
    Recorded after (lines ++ []) := by
  rw [List.append_nil]
  exact ⟨hs ▸ h.known, fun i d hi => hs ▸ h.records i d (hd ▸ hi)⟩

theorem Recorded.perform (h : Recorded b lines) (a : Action σ φ α) :
    Recorded (b.perform a).2 (lines ++ (b.perform a).1) := by
  cases a with
  | launch config spans => exact h.launch config spans
  | tick suspend => exact h.tick suspend
  | arrange move => exact h.of_same rfl rfl
  | shutdown =>
      obtain ⟨hs, hd⟩ := foldl_drop_records b.clock.waiting { b with clock := b.clock.clear }
      exact h.of_same hs hd
  | share run => exact h.of_same (b.roster.schedulers_observed run (· + 1)) rfl
  | release run => exact h.of_same (b.roster.schedulers_observed run (· - 1)) rfl
  | outside effect => exact h.of_same rfl rfl

theorem Recorded.play (h : Recorded b lines) (as : List (Action σ φ α)) :
    Recorded (b.play as).2 (lines ++ (b.play as).1) := by
  induction as generalizing b lines with
  | nil =>
      rw [Bench.play, List.append_nil]
      exact h
  | cons a as ih =>
      rw [play_cons, ← List.append_assoc]
      exact ih (h.perform a)

end Bench

end Reattempt
