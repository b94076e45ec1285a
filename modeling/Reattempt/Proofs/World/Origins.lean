import Reattempt.Proofs.World.Account

/-! # What stays the same of a run

No move changes the configuration of a run or the spans in which it was started. -/

namespace Reattempt

variable {σ φ α : Type}

def Run.origin (run : Run σ φ α) : Config σ φ α × List Log.Span := (run.config, run.parent)

/-- The origin of the run that a move starts. -/
def Move.origin? : Move σ φ α → Option (Config σ φ α × List Log.Span)
  | launch config spans _ => some (config, spans)
  | _ => none

theorem Roster.map_modify {β : Type} {g : Run σ φ α → β} (runs : List (Run σ φ α)) (i : Nat)
    {f : Run σ φ α → Run σ φ α} (hf : ∀ run, g (f run) = g run) :
    (runs.modify i f).map g = runs.map g :=
  (map_modify_comm hf runs i).trans (List.modify_id i _)

namespace World

def origins (w : World σ φ α) : List (Config σ φ α × List Log.Span) :=
  w.roster.runs.map Run.origin

section

variable (w : World σ φ α)

theorem origins_observed (run : Nat) (f : Nat → Nat) :
    ({ w with roster := w.roster.modifyRun run fun run =>
      { run with observers := f run.observers } } : World σ φ α).origins = w.origins :=
  Roster.map_modify _ _ fun _ => rfl

theorem origins_lose (t : Ticket φ) : (w.lose t).2.origins = w.origins :=
  Roster.map_modify _ _ fun _ => rfl

theorem origins_receive (t : Ticket φ) (fate : Fate) :
    (w.receive t fate).2.origins = w.origins := by
  cases fate with
  | kept => rfl
  | _ => exact w.origins_lose t

theorem origins_afterPoll (fate : Fate) (d : Driven φ) :
    (w.afterPoll fate d).2.origins = w.origins := by
  cases d with
  | suspended t pause => exact w.origins_receive t .kept
  | finished => rfl
  | handedOver delay t => exact w.origins_receive t fate

theorem origins_afterSubmit (run : Nat) (fate : Fate) :
    (w.afterSubmit run fate).origins = w.origins := by
  cases fate with
  | panicked _ => exact Roster.map_modify _ _ fun _ => rfl
  | _ => rfl

end

variable {past : List (Sight φ α)} {tl : Nat → List (Moment σ α)} {w : World σ φ α}

theorem Balanced.origins_perform (h : Balanced past tl w []) (m : Move σ φ α) :
    (w.perform m).2.origins = w.origins ++ m.origin?.toList := by
  cases m with
  | launch config spans fate =>
      simp only [World.perform, origins_afterSubmit, origins_receive]
      simp [origins, Roster.run_launch, Roster.addRun, Move.origin?, Run.origin]
  | poll place fate =>
      cases ht : w.held[place]? with
      | none => simp [World.perform, ht, Move.origin?]
      | some t =>
          obtain ⟨run, p, q, hrun, -, hd⟩ := (h.take ht).drives
          simp only [World.perform, ht, origins_afterPoll, Move.origin?, Option.toList_none,
            List.append_nil]
          rw [origins, origins]
          change List.map _ ((Roster.drive t).run [] w.roster).state.runs = _
          rw [hd.runs, ← Roster.modify_of_getElem? hrun fun run => { run with slot := q.slot }]
          exact Roster.map_modify _ _ fun _ => rfl
  | discard place =>
      cases ht : w.held[place]? with
      | none => simp [World.perform, ht, Move.origin?]
      | some t =>
          simp only [World.perform, ht, origins_lose, Move.origin?, Option.toList_none,
            List.append_nil]
          rfl
  | share run => exact (w.origins_observed run (· + 1)).trans (List.append_nil _).symm
  | release run => exact (w.origins_observed run (· - 1)).trans (List.append_nil _).symm
  | outside effect => simp [World.perform, Move.origin?, origins]

/-- The runs of a play are those that its moves start, in their order. -/
theorem Balanced.origins_play (h : Balanced past tl w []) (ms : List (Move σ φ α)) :
    (w.play ms).2.origins = w.origins ++ ms.filterMap Move.origin? := by
  induction ms generalizing past tl w with
  | nil => exact (List.append_nil _).symm
  | cons m ms ih =>
      rw [play_cons, ih (h.perform m), h.origins_perform, List.append_assoc, List.filterMap_cons]
      cases m.origin? <;> rfl

end World

end Reattempt
