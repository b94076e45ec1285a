import Reattempt.Proofs.Run.Invariants
import Reattempt.Proofs.World.Account
import Reattempt.Proofs.World.Hopeless

/-! # Who has the ticket of a run

Whatever schedulers do, the ticket of a run has one owner until it is used up or dropped, and what
the run's observers are told follows from which of the two happened. -/

namespace Reattempt

variable {σ φ α : Type}

/-- Where the ticket of a run is. The lists are the tickets of the run that schedulers hold, those
that were dropped, and the outcomes that the run settled with; last is what observers are told. -/
inductive Custody (r : Nat) :
    List (Ticket φ) → List (Ticket φ) → List (Outcome α) → Option (Outcome α) → Prop where
  | queued (n : UInt32) : Custody r [⟨r, n, .queued⟩] [] [] none
  | underway (n : UInt32) (operation : φ) : Custody r [⟨r, n, .underway operation⟩] [] [] none
  | consumed (outcome : Outcome α) (h : outcome ≠ .error .interrupted) :
      Custody r [] [] [outcome] (some outcome)
  | dropped (t : Ticket φ) (h : t.run = r) : Custody r [] [t] [] (some (.error .interrupted))

namespace Custody

variable {r : Nat} {held drops held' drops' : List (Ticket φ)} {settled settled' : List (Outcome α)}
  {told told' : Option (Outcome α)}

theorem settled_of_mem {t : Ticket φ} (h : Custody r held drops settled told) (ht : t ∈ held) :
    settled = [] := by
  cases h <;> first | rfl | cases ht

theorem held_of_pending (h : Custody r held drops settled told) (ht : told = none) :
    ∃ t, held = [t] := by
  cases h with
  | consumed => cases ht
  | dropped => cases ht
  | _ => exact ⟨_, rfl⟩

theorem unheld_of_told {outcome : Outcome α} (h : Custody r held drops settled told)
    (ht : told = some outcome) : held = [] := by
  cases h <;> first | rfl | cases ht

theorem told_of_mem {outcome : Outcome α} (h : Custody r held drops settled told)
    (hm : outcome ∈ settled) : told = some outcome := by
  cases h with
  | consumed _ _ => exact congrArg some (List.mem_singleton.mp hm).symm
  | _ => cases hm

theorem interrupted_iff (h : Custody r held drops settled told) :
    told = some (.error .interrupted) ↔ drops ≠ [] := by
  cases h with
  | consumed outcome ho => simp [ho]
  | _ => simp

/-- What observers are told does not change while more is seen. -/
theorem told_eq (h : Custody r held drops settled told)
    (h' : Custody r held' (drops ++ drops') (settled ++ settled') told') {outcome : Outcome α}
    (ho : told = some outcome) : told' = some outcome := by
  cases h with
  | queued => cases ho
  | underway => cases ho
  | consumed _ _ =>
      -- a run that has settled has done so for good: no other custody lists an outcome
      cases ho
      generalize hs : [outcome] ++ settled' = all at h'
      cases h' <;> simp_all
  | dropped t _ =>
      cases ho
      generalize hs : [t] ++ drops' = all at h'
      cases h' <;> simp_all

end Custody

/-- A run that is accounted for has its ticket where its slot and its acts say. -/
theorem Account.custody {r : Nat} {run : Run σ φ α} {ms : List (Moment σ α)}
    {held drops : List (Ticket φ)} {starts : List (List Log.Span)}
    (h : Account r (some run) ms held drops starts) :
    Custody r held drops ((ms.map Moment.act).filterMap Act.outcome?) run.slot.outcome? := by
  cases h with
  | @kept _ q _ path rest slot =>
      have hi := path.not_interrupted (by simp [Phase.verdict?])
      rw [path.settlements_of_unstarted, slot]
      cases q with
      | waiting n => exact .queued _
      | running n operation => exact .underway _ operation
      | finished n outcome => exact .consumed outcome (by simpa [Phase.verdict?] using hi)
      | _ => exact rest.elim
  | @dropped _ q _ t path rest ticket slot =>
      rw [path.settlements_of_unstarted, slot, Phase.slot_of_ticket? ticket]
      exact .dropped t (Phase.run_of_ticket? ticket)

namespace World

/-- What a run settled with, once for each time it settled. -/
def settlementsOf (r : Nat) (seen : List (Sight φ α)) : List (Outcome α) :=
  (actsOf r seen).filterMap Act.outcome?

theorem custody (env : σ) (ms : List (Move σ φ α)) {r : Nat}
    (hr : r < ((World.init env).play ms).2.roster.runs.length) :
    Custody r (((World.init env).play ms).2.heldBy r) (dropsOf r ((World.init env).play ms).1)
      (settlementsOf r ((World.init env).play ms).1)
      (((World.init env).play ms).2.roster.outcome? r) := by
  have hb := balanced env ms
  have ha := hb.account r
  rw [List.getElem?_eq_getElem hr, List.append_nil] at ha
  rw [settlementsOf, hb.acts, Roster.outcome?, List.getElem?_eq_getElem hr]
  exact ha.custody

theorem settlementsOf_append (r : Nat) (seen rest : List (Sight φ α)) :
    settlementsOf r (seen ++ rest) = settlementsOf r seen ++ settlementsOf r rest := by
  rw [settlementsOf, actsOf_append, List.filterMap_append]
  rfl

theorem length_runs_play (env : σ) (ms later : List (Move σ φ α)) {r : Nat}
    (hr : r < ((World.init env).play ms).2.roster.runs.length) :
    r < ((World.init env).play (ms ++ later)).2.roster.runs.length := by
  by_contra hlate
  have hearly := (balanced env ms).account r
  have hnone := (balanced env (ms ++ later)).account r
  rw [List.getElem?_eq_getElem hr] at hearly
  rw [List.getElem?_eq_none (Nat.le_of_not_lt hlate), timeline_append] at hnone
  exact hearly.ne_nil (List.append_eq_nil_iff.mp hnone.of_none.1).1

/-- In every state that any schedulers can bring about, the ticket of a run is with exactly one
unit of work, or was used up when the run settled, or was dropped. Whenever the operation is called,
every earlier call has come to its end. Observers are told of an interruption if and only if the
ticket was dropped, and what they are told never changes. -/
theorem single_owner (env : σ) (ms : List (Move σ φ α)) (r : Nat)
    (hr : r < ((World.init env).play ms).2.roster.runs.length) :
    let seen := ((World.init env).play ms).1
    let w := ((World.init env).play ms).2
    Custody r (w.heldBy r) (dropsOf r seen) (settlementsOf r seen) (w.roster.outcome? r) ∧
      (∀ as reply, as ++ [.called reply] <+: actsOf r seen →
        as.countP Act.opens = as.countP Act.closes) ∧
      (w.roster.outcome? r = some (.error .interrupted) ↔ dropsOf r seen ≠ []) ∧
      ∀ later outcome, w.roster.outcome? r = some outcome →
        (w.play later).2.roster.outcome? r = some outcome := by
  intro seen w
  have hc := custody env ms hr
  refine ⟨hc, ?_, hc.interrupted_iff, ?_⟩
  · intro as reply ha
    obtain ⟨q, path, -⟩ := exists_path env ms (List.getElem?_eq_getElem hr)
    rw [(balanced env ms).acts] at ha
    exact path.closed_of_called ha
  · intro later outcome ho
    have hlate := custody env (ms ++ later) (length_runs_play env ms later hr)
    rw [play_append, dropsOf_append, settlementsOf_append] at hlate
    exact hc.told_eq hlate ho

/-- A run that is dropped between two attempts, for instance, is interrupted. -/
theorem single_owner_discarded :
    ((World.init ()).play
      (hopelessMoves .standard 1 ++ [.share 0, .discard 0])).2.roster.outcome? 0 =
        some (.error .interrupted) := by
  have hrun : 0 < ((World.init ()).play
      (hopelessMoves .standard 1 ++ [.share 0, .discard 0])).2.roster.runs.length := by decide
  exact (single_owner () _ 0 hrun).2.2.1.mpr (List.cons_ne_nil _ _)

end World

end Reattempt
