import Reattempt.Proofs.Run.Mute
import Reattempt.Proofs.Run.Notices
import Reattempt.Proofs.World.Ledger
import Reattempt.Proofs.World.Sticky

/-! # The notifier cannot influence a run

Plays that differ in nothing but the notifiers show the same, apart from the notices themselves. -/

namespace Reattempt

variable {σ ρ φ α : Type} {view : σ → ρ}

def Move.mute : Move σ φ α → Move σ φ α
  | launch config spans fate => launch config.mute spans fate
  | m => m

/-- A move that brings in only code that sees no more than a view of what is shared. -/
def Move.Shields (view : σ → ρ) : Move σ φ α → Prop
  | launch config _ _ => config.Shields view
  | outside effect => ∀ s t, Agree view s t → Agree view (effect s) (effect t)
  | _ => True

theorem Move.Shields.config {m : Move σ φ α} (h : m.Shields view) {c : Config σ φ α}
    (hc : m.config? = some c) : c.Shields view := by
  cases m <;> cases hc
  exact h

theorem Move.Shields.mute {m : Move σ φ α} (h : m.Shields view) : m.mute.Shields view := by
  cases m with
  | launch config spans fate => exact ⟨h.check, h.call, h.poll, h.classifier, nofun⟩
  | _ => exact h

def Sight.isNotice : Sight φ α → Bool
  | line l => l.isNotice
  | dropped _ => false

namespace World

/-- The second world has the runs of the first with no notifiers. -/
structure Mutes (view : σ → ρ) (w v : World σ φ α) : Prop where
  roster : w.roster.Mutes view v.roster
  held : v.held = w.held

/-- What was seen in the first world but for the notices is what was seen in the second. -/
def Mirrors (view : σ → ρ) (x y : List (Sight φ α) × World σ φ α) : Prop :=
  x.1.filter (fun sight => !sight.isNotice) = y.1 ∧ x.2.Mutes view y.2

variable {w v : World σ φ α}

theorem Mutes.lose (h : w.Mutes view v) (t : Ticket φ) : Mirrors view (w.lose t) (v.lose t) :=
  ⟨rfl, h.roster.modifyRun t.run fun _ => rfl, h.held⟩

theorem Mutes.receive (h : w.Mutes view v) (t : Ticket φ) (fate : Fate) :
    Mirrors view (w.receive t fate) (v.receive t fate) := by
  cases fate with
  | kept => exact ⟨rfl, h.roster, by simp only [World.receive, h.held]⟩
  | _ => exact h.lose t

theorem Mutes.afterPoll (h : w.Mutes view v) (fate : Fate) (d : Driven φ) :
    Mirrors view (w.afterPoll fate d) (v.afterPoll fate d) := by
  cases d with
  | suspended t pause => exact h.receive t .kept
  | finished => exact ⟨rfl, h⟩
  | handedOver delay t => exact h.receive t fate

theorem Mutes.observed (h : w.Mutes view v) (run : Nat) (f : Nat → Nat) :
    Mutes view { w with roster := w.roster.modifyRun run fun run =>
        { run with observers := f run.observers } }
      { v with roster := v.roster.modifyRun run fun run =>
        { run with observers := f run.observers } } :=
  ⟨h.roster.modifyRun run fun _ => rfl, h.held⟩

theorem Mutes.afterSubmit (h : w.Mutes view v) (run : Nat) (fate : Fate) :
    (w.afterSubmit run fate).Mutes view (v.afterSubmit run fate) := by
  cases fate with
  | panicked _ => exact h.observed run (· - 1)
  | _ => exact h

theorem Mutes.launch (h : w.Mutes view v) (config : Config σ φ α) (spans : List Log.Span) :
    w.roster.runs.length = v.roster.runs.length ∧
      Mutes view ⟨w.roster.addRun ⟨config, spans, .waiting, 1⟩, w.held⟩
        ⟨v.roster.addRun ⟨config.mute, spans, .waiting, 1⟩, v.held⟩ := by
  refine ⟨by simp [h.roster.runs], ⟨h.roster.env, ?_⟩, h.held⟩
  simp [Roster.addRun, h.roster.runs, Run.mute]

theorem filter_lines (lines : List (Line α)) :
    (lines.map Sight.line : List (Sight φ α)).filter (fun sight => !sight.isNotice) =
      (lines.filterMap Roster.unnoticed).map .line := by
  rw [List.filterMap_eq_filter, List.filter_map]
  rfl

theorem Mutes.perform (h : w.Mutes view v) (hw : ∀ c ∈ w.configs, c.Shields view)
    {m : Move σ φ α} (hm : m.Shields view) :
    Mirrors view (w.perform m) (v.perform m.mute) := by
  cases m with
  | launch config spans fate =>
      obtain ⟨hlen, hl⟩ := h.launch config spans
      obtain ⟨hseen, hafter⟩ := hl.receive ⟨w.roster.runs.length, 1, .queued⟩ fate
      simp only [World.perform, Move.mute, Roster.run_launch, ← hlen]
      refine ⟨?_, hafter.afterSubmit _ _⟩
      rw [List.filter_append, hseen]
      rfl
  | poll place fate =>
      simp only [World.perform, Move.mute, h.held]
      cases ht : w.held[place]? with
      | none => exact ⟨rfl, h⟩
      | some t =>
          have hshields : ∀ run ∈ w.roster.runs, run.config.Shields view := fun run hrun =>
            hw _ (List.mem_map_of_mem hrun)
          have hd := Roster.drive_mirrors h.roster hshields t []
          simp only [← hd.value]
          obtain ⟨hseen, hafter⟩ := Mutes.afterPoll (w := ⟨_, w.held.eraseIdx place⟩)
            (v := ⟨_, w.held.eraseIdx place⟩) ⟨hd.state, rfl⟩ fate
              ((Roster.drive t).run [] w.roster).value
          refine ⟨?_, hafter⟩
          rw [List.filter_append, filter_lines, hd.notes, hseen]
  | discard place =>
      simp only [World.perform, Move.mute, h.held]
      cases w.held[place]? with
      | none => exact ⟨rfl, h⟩
      | some t =>
          exact Mutes.lose (w := ⟨w.roster, w.held.eraseIdx place⟩)
            (v := ⟨v.roster, w.held.eraseIdx place⟩) ⟨h.roster, rfl⟩ t
  | share run => exact ⟨rfl, h.observed run (· + 1)⟩
  | release run => exact ⟨rfl, h.observed run (· - 1)⟩
  | outside effect => exact ⟨rfl, ⟨hm _ _ h.roster.env, h.roster.runs⟩, h.held⟩

variable {past : List (Sight φ α)} {tl : Nat → List (Moment σ α)}

theorem Mutes.play (h : w.Mutes view v) (hb : Balanced past tl w [])
    (hw : ∀ c ∈ w.configs, c.Shields view) {ms : List (Move σ φ α)}
    (hms : ∀ m ∈ ms, m.Shields view) : Mirrors view (w.play ms) (v.play (ms.map Move.mute)) := by
  induction ms generalizing past tl w v with
  | nil => exact ⟨rfl, h⟩
  | cons m ms ih =>
      have hm := hms m List.mem_cons_self
      -- no configuration comes in but that of a launched run
      have hw' : ∀ c ∈ (w.perform m).2.configs, c.Shields view := by
        intro c hc
        rw [hb.configs_perform m, List.mem_append, Option.mem_toList] at hc
        exact hc.elim (hw c) hm.config
      obtain ⟨hseen, hafter⟩ := h.perform hw hm
      obtain ⟨hrest, hlast⟩ :=
        ih hafter (hb.perform m) hw' fun m' hm' => hms m' (List.mem_cons_of_mem _ hm')
      refine ⟨?_, hlast⟩
      rw [play_cons, List.filter_append, hseen, hrest]
      rfl

/-- A play without notifiers shows what the play with them shows but for the notices. -/
theorem mirrors_mute {env env' : σ} (henv : view env = view env') {ms : List (Move σ φ α)}
    (hms : ∀ m ∈ ms, m.Shields view) :
    Mirrors view ((World.init env).play ms) ((World.init env').play (ms.map Move.mute)) := by
  have hinit : (World.init env : World σ φ α).Mutes view (World.init env') := ⟨⟨henv, rfl⟩, rfl⟩
  refine hinit.play (balanced_init env) (fun c hc => ?_) hms
  simp [configs, World.init, Roster.init] at hc

theorem Mutes.outcome? (h : w.Mutes view v) (r : Nat) :
    w.roster.outcome? r = v.roster.outcome? r := by
  rw [Roster.outcome?, Roster.outcome?, h.roster.getElem?]
  cases w.roster.runs[r]? <;> rfl

/-! ## The notices -/

/-- The warnings of a run. -/
def warningsOf (r : Nat) (seen : List (Sight φ α)) : List Log.Event :=
  (notesOf r seen).filterMap Note.warning?

/-- The notifier of a run is shown what its classifier is asked about, whether it panics or not, and
the warnings of the run are those of its panics. -/
theorem notices (env : σ) (ms : List (Move σ φ α)) {r : Nat} {run : Run σ φ α}
    (hr : ((World.init env).play ms).2.roster.runs[r]? = some run) :
    let seen := ((World.init env).play ms).1
    warningsOf r seen = (actsOf r seen).filterMap Act.alarm? ∧
      (actsOf r seen).filterMap Act.notified? =
        if run.config.notifier.isSome then (actsOf r seen).filterMap Act.classified? else [] := by
  intro seen
  obtain ⟨q, hl, rest⟩ := exists_ledger env ms hr
  have hacts : actsOf r seen = ((World.init env).timeline r ms).map Moment.act :=
    (balanced env ms).acts r
  rw [hacts]
  refine ⟨hl.warnings, ?_⟩
  by_cases hn : run.config.notifier.isSome
  · have hpath := hl.path.notices hn
    have hshown : q.shown = [] := by
      cases q with
      | reported n f => exact rest.elim
      | _ => rfl
    rw [hshown, List.append_nil] at hpath
    rw [if_pos hn]
    exact hpath
  · rw [if_neg hn]
    exact hl.path.no_notices (by simpa using hn)

/-- Two plays that differ in nothing but the notifiers, of which some may be missing and none
changes what other code can see, show the same but for the notices: the same checks, calls,
classified causes, submissions, requests, settlements and entries, in the same order. They leave the
same work and the same outcomes. In either, a notifier is shown every cause that is classified,
however often it has panicked, and there is one warning for each panic and no other. -/
theorem notifier_invisible (view : σ → ρ) (env env' : σ) (ms ms' : List (Move σ φ α))
    (henv : view env = view env') (hms : ∀ m ∈ ms, m.Shields view)
    (hms' : ∀ m ∈ ms', m.Shields view) (hsame : ms.map Move.mute = ms'.map Move.mute) :
    let seen := ((World.init env).play ms).1
    let seen' := ((World.init env').play ms').1
    let w := ((World.init env).play ms).2
    let w' := ((World.init env').play ms').2
    seen.filter (fun sight => !sight.isNotice) = seen'.filter (fun sight => !sight.isNotice) ∧
      w.held = w'.held ∧ (∀ r, w.roster.outcome? r = w'.roster.outcome? r) ∧
      ∀ r run, w.roster.runs[r]? = some run →
        warningsOf r seen = (actsOf r seen).filterMap Act.alarm? ∧
        (actsOf r seen).filterMap Act.notified? =
          if run.config.notifier.isSome then (actsOf r seen).filterMap Act.classified? else [] := by
  intro seen seen' w w'
  -- both are compared with the play that has no notifiers at all
  obtain ⟨hseen, hw⟩ := mirrors_mute henv hms
  obtain ⟨hseen', hw'⟩ := mirrors_mute (rfl : view env' = view env') hms'
  rw [← hsame] at hseen' hw'
  refine ⟨hseen.trans hseen'.symm, hw.held.symm.trans hw'.held, ?_, fun r run hr => ?_⟩
  · intro r
    rw [hw.outcome?, hw'.outcome?]
  · exact notices env ms hr

/-- A run whose every attempt fails, with a notifier that counts what it is told and panics every
second time. -/
def gossip : Config Nat Unit Unit where
  action := "connect"
  session := "s-1"
  operation := ⟨pure (.returned ()), fun _ => pure (.done (.returned (.error (.ofText "down"))))⟩
  check := ⟨pure (.returned false)⟩
  scheduler := 0
  notifier := some ⟨fun _ told =>
    (if told % 2 = 0 then .panicked (.text "pager") else .returned (), told + 1)⟩
  classifier := .always
  backoff := .standard

theorem gossip_shields : gossip.Shields fun _ => () where
  check _ _ _ := ⟨rfl, rfl⟩
  call _ _ _ := ⟨rfl, rfl⟩
  poll _ _ _ _ := ⟨rfl, rfl⟩
  classifier _ _ _ _ := ⟨rfl, rfl⟩
  notifier _ _ _ _ := rfl

def gossipMoves : List (Move Nat Unit Unit) :=
  .launch gossip [] .kept :: List.replicate 3 (.poll 0 .kept)

/-- Of three notices two are panics. Without the notifier all else is the same. -/
theorem notifier_invisible_gossip :
    let seen := ((World.init 0).play gossipMoves).1
    seen.filter (fun sight => !sight.isNotice) =
        ((World.init 0).play (gossipMoves.map Move.mute)).1.filter (fun sight => !sight.isNotice) ∧
      (warningsOf 0 seen).length = 2 ∧ ((actsOf 0 seen).filterMap Act.notified?).length = 3 := by
  intro seen
  have hpoll : Move.Shields (fun _ => ()) (.poll 0 .kept : Move Nat Unit Unit) := trivial
  have hms : ∀ m ∈ gossipMoves, m.Shields fun _ => () := by
    simp only [gossipMoves, List.mem_cons, List.mem_replicate]
    rintro m (rfl | ⟨-, rfl⟩)
    · exact gossip_shields
    · exact hpoll
  have hms' : ∀ m ∈ gossipMoves.map Move.mute, m.Shields fun _ => () := by
    intro m hm
    obtain ⟨n, hn, rfl⟩ := List.mem_map.mp hm
    exact (hms n hn).mute
  have hsame : gossipMoves.map Move.mute = (gossipMoves.map Move.mute).map Move.mute := by
    simp [gossipMoves, Move.mute, Config.mute]
  exact ⟨(notifier_invisible (fun _ => ()) 0 0 _ _ rfl hms hms' hsame).1, rfl, rfl⟩

end World

end Reattempt
