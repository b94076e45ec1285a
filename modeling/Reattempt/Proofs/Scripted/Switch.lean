import Reattempt.Proofs.World.Sticky
import Reattempt.Scripted.Observers
import Reattempt.Scripted.Operation

/-! # Switches of scripted code

A switch of the fixture that is flipped stays flipped, whatever scripted code is called. -/

namespace Reattempt

variable {σ α β γ : Type} {P : σ → Prop}

namespace Preserves

theorem pure (b : β) : Preserves P (pure b : StateM σ β) := fun _ hs => hs

theorem get : Preserves P (get : StateM σ σ) := fun _ hs => hs

theorem modify {f : σ → σ} (hf : ∀ s, P s → P (f s)) : Preserves P (modify f : StateM σ PUnit) :=
  hf

theorem bind {x : StateM σ β} {f : β → StateM σ γ} (hx : Preserves P x)
    (hf : ∀ b, Preserves P (f b)) : Preserves P (x >>= f) :=
  fun s hs => hf _ _ (hx s hs)

end Preserves

namespace Scripted

def Flipped (switch : String) (f : Fixture) : Prop := f.isCancelled switch = true

variable {switch : String}

namespace Fixture

theorem flipped_cancel (f : Fixture) (other : String) (h : Flipped switch f) :
    Flipped switch (f.cancel other) := by
  unfold Fixture.cancel
  split
  · exact h
  · simp only [Flipped, Fixture.isCancelled, List.contains_cons, Bool.or_eq_true] at *
    exact .inr h

theorem isCancelled_cancel (f : Fixture) : (f.cancel switch).isCancelled switch = true := by
  unfold Fixture.cancel
  split
  · assumption
  · simp [Fixture.isCancelled]

theorem preserves_count (counter : Nat) : Preserves (Flipped switch) (Fixture.count counter) :=
  fun _ h => h

theorem preserves_record (event : Event) : Preserves (Flipped switch) (Fixture.record event) :=
  fun _ h => h

theorem preserves_cancel (other : String) : Preserves (Flipped switch)
    (modify fun f => f.cancel other : StateM Fixture PUnit) :=
  fun f h => f.flipped_cancel other h

end Fixture

theorem Playing.preserves_poll (p : Playing α) : Preserves (Flipped switch) p.poll := by
  unfold Playing.poll
  split
  · exact .pure _
  · exact .pure _
  · refine .bind (Fixture.preserves_record _) fun _ => ?_
    split <;> exact .pure _

theorem Script.preserves_call (s : Script α) (counter : Nat) :
    Preserves (Flipped switch) (s.call counter) := by
  refine .bind (Fixture.preserves_count _) fun n => .bind (Fixture.preserves_record _) fun _ => ?_
  dsimp only
  split
  · refine .bind (Fixture.preserves_cancel _) fun _ => ?_
    split <;> exact .pure _
  · split <;> exact .pure _

theorem CheckScript.preserves_poll (s : CheckScript) (counter : Nat) :
    Preserves (Flipped switch) (s.check counter).poll :=
  .bind (Fixture.preserves_count _) fun _ => .bind .get fun _ =>
    .bind (Fixture.preserves_record _) fun _ => .pure _

theorem NotifierScript.preserves_consumer (s : NotifierScript) (counter : Nat) (cause : Failure) :
    Preserves (Flipped switch) ((s.notifier counter).consumer cause) := by
  refine .bind (Fixture.preserves_count _) fun n => .bind (Fixture.preserves_record _) fun _ => ?_
  dsimp only
  split
  · split
    · refine .bind (Fixture.preserves_cancel _) fun _ => ?_
      split <;> exact .pure _
    · split <;> exact .pure _
  · split <;> exact .pure _

theorem ClassifierScript.preserves_judge (s : ClassifierScript) (counter : Nat) (cause : Failure) :
    Preserves (Flipped switch) ((s.classifier counter).judge cause) := by
  cases s with
  | ruled label rule =>
      exact .bind (Fixture.preserves_count _) fun _ => .bind (Fixture.preserves_record _) fun _ =>
        .pure _
  | _ => exact .pure _

structure IsScripted (c : Config Fixture (Playing α) α) : Prop where
  operation : ∃ (s : Script α) (counter : Nat), c.operation = s.operation counter
  check : ∃ (s : CheckScript) (counter : Nat), c.check = s.check counter
  notifier : ∀ n, c.notifier = some n → ∃ (s : NotifierScript) (counter : Nat),
    n = s.notifier counter
  classifier : ∃ (s : ClassifierScript) (counter : Nat), c.classifier = s.classifier counter

/-- Scripted code flips no switch back. -/
theorem IsScripted.keeps {c : Config Fixture (Playing α) α} (h : IsScripted c) (switch : String) :
    c.Keeps (Flipped switch) where
  check := by
    obtain ⟨s, counter, hs⟩ := h.check
    rw [hs]
    exact s.preserves_poll counter
  call := by
    obtain ⟨s, counter, hs⟩ := h.operation
    rw [hs]
    exact s.preserves_call counter
  poll operation := by
    obtain ⟨s, counter, hs⟩ := h.operation
    rw [hs]
    exact operation.preserves_poll
  notifier n cause hn := by
    obtain ⟨s, counter, rfl⟩ := h.notifier n hn
    exact s.preserves_consumer counter cause
  classifier cause := by
    obtain ⟨s, counter, hs⟩ := h.classifier
    rw [hs]
    exact s.preserves_judge counter cause

/-- A scripted check that has a switch and does not panic reads it. -/
theorem CheckScript.heeds {c : Config Fixture (Playing α) α} {s : CheckScript} {counter : Nat}
    {switch : String} (hc : c.check = s.check counter) (hs : s.switch = some switch)
    (hp : s.panicAt = none) : c.Heeds fun f => f.isCancelled switch := by
  intro f
  rw [hc]
  change s.answer _ _ = _
  rw [CheckScript.answer, hp, hs]
  rfl

end Scripted

end Reattempt
