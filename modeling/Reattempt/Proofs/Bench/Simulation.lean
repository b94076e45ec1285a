import Reattempt.Proofs.Bench.Basic
import Reattempt.Proofs.World.Sticky

/-! # A bench is a world

Whatever is done with a bench, some moves of a world say and leave the same. -/

namespace Reattempt

variable {σ φ α : Type}

def Sight.line? : Sight φ α → Option (Line α)
  | line l => some l
  | dropped _ => none

namespace World

def linesOf (seen : List (Sight φ α)) : List (Line α) := seen.filterMap Sight.line?

theorem linesOf_append (seen rest : List (Sight φ α)) :
    linesOf (seen ++ rest) = linesOf seen ++ linesOf rest :=
  List.filterMap_append

theorem linesOf_lines (lines : List (Line α)) :
    linesOf (lines.map .line : List (Sight φ α)) = lines := by
  rw [linesOf, List.filterMap_map]
  exact List.filterMap_some

theorem linesOf_receive (w : World σ φ α) (t : Ticket φ) (fate : Fate) :
    linesOf (w.receive t fate).1 = [] := by
  cases fate <;> rfl

theorem notesOf_linesOf (r : Nat) (seen : List (Sight φ α)) :
    Roster.notesOf r (linesOf seen) = notesOf r seen := by
  rw [linesOf, Roster.notesOf, notesOf, List.filterMap_filterMap]
  refine List.filterMap_congr fun sight _ => ?_
  cases sight <;> rfl

def setEnv (w : World σ φ α) (env : σ) : World σ φ α :=
  { w with roster := { w.roster with env := env } }

/-- Work that is held has a place. -/
theorem exists_place {w : World σ φ α} {t : Ticket φ} {rest : List (Ticket φ)}
    (h : w.held.Perm (t :: rest)) :
    ∃ place, w.held[place]? = some t ∧ (w.held.eraseIdx place).Perm rest := by
  obtain ⟨place, hplace⟩ := List.mem_iff_getElem?.mp (h.mem_iff.mpr List.mem_cons_self)
  obtain ⟨hlt, rfl⟩ := List.getElem?_eq_some_iff.mp hplace
  exact ⟨place, hplace, ((List.getElem_cons_eraseIdx_perm hlt).trans h).cons_inv⟩

end World

namespace Bench

/-! ## Handing a ticket to a desk -/

/-- What becomes of a ticket that is handed to a desk. -/
structure Requested (b : Bench σ φ α) (t : Ticket φ) (fate : Fate) (after : Bench σ φ α) :
    Prop where
  roster : after.roster = if fate = .kept then { b.roster with env := after.roster.env }
    else ({ b.roster with env := after.roster.env } : Roster σ φ α).drop t
  tickets : after.clock.tickets.Perm
    (if fate = .kept then b.clock.tickets ++ [t] else b.clock.tickets)
  linear : ∀ d ∈ after.desks, d.scheduler.Linear Prod.fst

theorem requested {b : Bench σ φ α} (h : ∀ d ∈ b.desks, d.scheduler.Linear Prod.fst) (desk : Nat)
    (when : Request) (t : Ticket φ) :
    Requested b t (b.request desk when (.attempt t)).1 (b.request desk when (.attempt t)).2 := by
  cases hd : b.desks[desk]? with
  | none =>
      simp only [request, hd]
      exact ⟨rfl, .refl _, h⟩
  | some d =>
      have htake := h d (List.mem_of_getElem? hd) when (.attempt t) (b.clock, b.roster.env)
      have hdesks : ∀ d' ∈ b.desks.set desk { d with record := d.record.add when },
          d'.scheduler.Linear Prod.fst := by
        intro d' hd'
        rcases List.mem_or_eq_of_mem_set hd' with hmem | rfl
        · exact h d' hmem
        · exact h d (List.mem_of_getElem? hd)
      rw [request_eq b hd]
      generalize d.scheduler.take when (.attempt t) (b.clock, b.roster.env) = taken at *
      obtain ⟨fate, clock, env⟩ := taken
      cases fate with
      | kept => exact ⟨rfl, htake, hdesks⟩
      | lost => exact ⟨rfl, htake, hdesks⟩
      | panicked payload => exact ⟨rfl, htake, hdesks⟩

/-! ## The simulation -/

/-- The world that has the runs of a bench and holds the tickets that wait on its clock. -/
structure Simulates (b : Bench σ φ α) (w : World σ φ α) : Prop where
  roster : w.roster = b.roster
  held : w.held.Perm b.clock.tickets
  linear : ∀ d ∈ b.desks, d.scheduler.Linear Prod.fst

variable {b : Bench σ φ α} {w : World σ φ α}

theorem Simulates.receive (h : Simulates b w) {t : Ticket φ} {fate : Fate}
    {after : Bench σ φ α} (hq : Requested b t fate after) :
    Simulates after ((w.receive t fate).2.setEnv after.roster.env) := by
  obtain ⟨hroster, htickets, hlinear⟩ := hq
  rw [← h.roster] at hroster
  cases fate with
  | kept => exact ⟨hroster.symm, (h.held.append_right _).trans htickets.symm, hlinear⟩
  | lost => exact ⟨hroster.symm, h.held.trans htickets.symm, hlinear⟩
  | panicked payload => exact ⟨hroster.symm, h.held.trans htickets.symm, hlinear⟩

theorem Simulates.afterSubmit (h : Simulates b w) (run : Nat) (fate : Fate) :
    Simulates (b.afterSubmit run fate) (w.afterSubmit run fate) := by
  cases fate with
  | panicked payload =>
      exact ⟨congrArg (Roster.removeObserver · run) h.roster, h.held, h.linear⟩
  | _ => exact h

/-- Moves that say and leave what an action says and leaves. -/
def Matches (w : World σ φ α) (config : Option (Config σ φ α)) (lines : List (Line α))
    (after : Bench σ φ α) : Prop :=
  ∃ ms : List (Move σ φ α), ms.filterMap Move.config? = config.toList ∧
    World.linesOf (w.play ms).1 = lines ∧ Simulates after (w.play ms).2

theorem Simulates.launch (h : Simulates b w) (config : Config σ φ α) (spans : List Log.Span) :
    Matches w (some config) (b.perform (.launch config spans)).1
      (b.perform (.launch config spans)).2 := by
  obtain ⟨c, held⟩ := w
  obtain rfl : c = b.roster := h.roster
  have hadd : Simulates { b with roster := b.roster.addRun ⟨config, spans, .waiting, 1⟩ }
      ⟨b.roster.addRun ⟨config, spans, .waiting, 1⟩, held⟩ := ⟨rfl, h.held, h.linear⟩
  have hq := requested hadd.linear config.scheduler .now ⟨b.roster.runs.length, 1, .queued⟩
  rw [perform_launch]
  dsimp only
  generalize Bench.request _ config.scheduler _ _ = requested at hq ⊢
  obtain ⟨fate, after⟩ := requested
  have hafter := (hadd.receive hq).afterSubmit b.roster.runs.length fate
  -- what the scheduler did to what callers' code shares is a move of its own
  refine ⟨[.launch config spans fate, .outside fun _ => after.roster.env], rfl, ?_, ?_⟩
  · simp only [World.play_cons, World.perform, World.linesOf_append, World.linesOf_lines,
      World.linesOf_receive, Roster.run_launch, World.play_nil, List.append_nil]
  · cases fate <;> exact hafter

/-- A ticket was driven that the world no longer holds. -/
theorem Simulates.afterDrive
    {suspend : Clock (Work σ φ) → Duration → Work σ φ → Clock (Work σ φ)} (h : Simulates b w)
    (hs : ∀ clock pause w, (suspend clock pause w).tickets.Perm
      (clock.tickets ++ w.ticket?.toList)) (run : Nat) (d : Driven φ) :
    ∃ fate, Simulates (b.afterDrive suspend run d)
      ((w.afterPoll fate d).2.setEnv (b.afterDrive suspend run d).roster.env) := by
  obtain ⟨c, held⟩ := w
  obtain rfl : c = b.roster := h.roster
  cases d with
  | suspended t pause =>
      refine ⟨.kept, rfl, ?_, h.linear⟩
      exact (h.held.append_right _).trans (hs b.clock pause (.attempt t)).symm
  | finished => exact ⟨.kept, rfl, h.held, h.linear⟩
  | handedOver delay t => exact ⟨_, h.receive (requested h.linear _ _ t)⟩

theorem linesOf_afterPoll (w : World σ φ α) (fate : Fate) (d : Driven φ) :
    World.linesOf (w.afterPoll fate d).1 = [] := by
  cases d with
  | suspended t pause => exact w.linesOf_receive t .kept
  | finished => rfl
  | handedOver delay t => exact w.linesOf_receive t fate

theorem waiting_of_takeReady? {clock after : Clock (Work σ φ)} {w : Work σ φ}
    (h : clock.takeReady? = some (w, after)) : clock.waiting = w :: after.waiting := by
  unfold Clock.takeReady? at h
  cases hr : clock.ready with
  | nil => simp [hr] at h
  | cons w' rest =>
      simp only [hr, Option.some.injEq, Prod.mk.injEq] at h
      obtain ⟨rfl, rfl⟩ := h
      simp [Clock.waiting, hr]

theorem Simulates.tick (h : Simulates b w)
    {suspend : Clock (Work σ φ) → Duration → Work σ φ → Clock (Work σ φ)}
    (hs : ∀ clock pause w, (suspend clock pause w).tickets.Perm
      (clock.tickets ++ w.ticket?.toList)) :
    Matches w none (b.perform (.tick suspend)).1 (b.perform (.tick suspend)).2 := by
  obtain ⟨c, held⟩ := w
  obtain rfl : c = b.roster := h.roster
  rw [perform_tick]
  cases ht : b.clock.takeReady? with
  | none => exact ⟨[], rfl, rfl, h⟩
  | some taken =>
      obtain ⟨work, clock⟩ := taken
      have hheld := h.held
      rw [Clock.tickets, waiting_of_takeReady? ht] at hheld
      cases work with
      | errand effect => exact ⟨[.outside effect], rfl, rfl, rfl, hheld, h.linear⟩
      | attempt t =>
          -- the world holds the ticket too, at a place of its own
          obtain ⟨place, hplace, hrest⟩ := World.exists_place (t := t) hheld
          dsimp only
          have hdriven : Simulates
              { b with clock := clock, roster := ((Roster.drive t).run [] b.roster).state }
              ⟨((Roster.drive t).run [] b.roster).state, held.eraseIdx place⟩ :=
            ⟨rfl, hrest, h.linear⟩
          obtain ⟨fate, hafter⟩ := hdriven.afterDrive hs t.run
            ((Roster.drive t).run [] b.roster).value
          generalize Bench.afterDrive _ suspend t.run _ = after at hafter ⊢
          refine ⟨[.poll place fate, .outside fun _ => after.roster.env], rfl, ?_, ?_⟩
          · simp only [World.play_cons, World.perform, hplace, World.linesOf_append,
              World.linesOf_lines, linesOf_afterPoll, World.play_nil, List.append_nil]
          · simp only [World.play_cons, World.perform, hplace, World.play_nil]
            exact hafter

/-- Work that is dropped one unit after the other is discarded one ticket after the other. -/
theorem exists_discards (ws : List (Work σ φ)) {b : Bench σ φ α} {w : World σ φ α}
    (hr : w.roster = b.roster) (hh : w.held.Perm (ws.filterMap Work.ticket?)) :
    ∃ ms : List (Move σ φ α), ms.filterMap Move.config? = [] ∧
      World.linesOf (w.play ms).1 = [] ∧ (w.play ms).2.held = [] ∧
      ws.foldl drop b = { b with roster := (w.play ms).2.roster } := by
  induction ws generalizing b w with
  | nil => exact ⟨[], rfl, rfl, hh.eq_nil, by rw [World.play_nil, hr]; rfl⟩
  | cons work ws ih =>
      cases work with
      | errand effect => exact ih hr hh
      | attempt t =>
          obtain ⟨place, hplace, hrest⟩ := World.exists_place (t := t) hh
          obtain ⟨ms, hconfig, hlines, hheld, hfold⟩ := ih (b := b.drop (.attempt t))
            (w := ⟨w.roster.drop t, w.held.eraseIdx place⟩)
            (congrArg (Roster.drop · t) hr) hrest
          refine ⟨.discard place :: ms, hconfig, ?_, ?_, ?_⟩
          · simp only [World.play_cons, World.perform, hplace, World.lose, World.linesOf_append,
              hlines]
            rfl
          · simpa only [World.play_cons, World.perform, hplace, World.lose] using hheld
          · simp only [World.play_cons, World.perform, hplace, World.lose]
            exact hfold

theorem Simulates.shutdown (h : Simulates b w) :
    Matches w none (b.perform .shutdown).1 (b.perform .shutdown).2 := by
  obtain ⟨ms, hconfig, hlines, hheld, hfold⟩ :=
    exists_discards b.clock.waiting (b := { b with clock := b.clock.clear }) h.roster h.held
  have hafter : (b.perform .shutdown).2 =
      { b with clock := b.clock.clear, roster := (w.play ms).2.roster } := hfold
  rw [hafter]
  refine ⟨ms, hconfig, hlines, rfl, ?_, h.linear⟩
  rw [hheld]
  exact .refl _

/-- Whatever is done with a bench, some moves say and leave the same. -/
theorem Simulates.perform (h : Simulates b w) {a : Action σ φ α} (ha : a.Linear) :
    Matches w a.config? (b.perform a).1 (b.perform a).2 := by
  cases a with
  | launch config spans => exact h.launch config spans
  | tick suspend => exact h.tick ha
  | arrange move => exact ⟨[], rfl, rfl, h.roster, h.held.trans (ha b.clock).symm, h.linear⟩
  | shutdown => exact h.shutdown
  | share run =>
      exact ⟨[.share run], rfl, rfl, congrArg (Roster.addObserver · run) h.roster, h.held, h.linear⟩
  | release run =>
      exact ⟨[.release run], rfl, rfl, congrArg (Roster.removeObserver · run) h.roster, h.held,
        h.linear⟩
  | outside effect =>
      refine ⟨[.outside effect], rfl, rfl, ?_, h.held, h.linear⟩
      simp [World.play_cons, World.perform, Bench.perform, h.roster]

theorem Simulates.play (h : Simulates b w) {as : List (Action σ φ α)}
    (has : ∀ a ∈ as, a.Linear) :
    ∃ ms : List (Move σ φ α), ms.filterMap Move.config? = as.filterMap Action.config? ∧
      World.linesOf (w.play ms).1 = (b.play as).1 ∧ Simulates (b.play as).2 (w.play ms).2 := by
  induction as generalizing b w with
  | nil => exact ⟨[], rfl, rfl, h⟩
  | cons a as ih =>
      obtain ⟨ms, hconfig, hlines, hafter⟩ := h.perform (has a List.mem_cons_self)
      obtain ⟨ns, hconfigs, hrest, hlast⟩ :=
        ih hafter fun a' ha' => has a' (List.mem_cons_of_mem _ ha')
      refine ⟨ms ++ ns, ?_, ?_, ?_⟩
      · rw [List.filterMap_append, hconfig, hconfigs, List.filterMap_cons]
        cases a.config? <;> rfl
      · rw [World.play_append, World.linesOf_append, hlines, hrest, play_cons]
      · rw [World.play_append, play_cons]
        exact hlast

end Bench

end Reattempt
