import Reattempt.Note

/-! # Computations that mirror others

One computation mirrors another if from related states it gives the same value, leads to related
states, and makes those notes that are seen of the notes of the other. -/

namespace Reattempt

variable {σ τ ν μ β γ : Type} {R : σ → τ → Prop} {see : ν → Option μ}

/-- Questions that give the same answer in related states, and lead to related states. -/
def Couples (R : σ → τ → Prop) (x : StateM σ β) (y : StateM τ β) : Prop :=
  ∀ s t, R s t → (x.run s).1 = (y.run t).1 ∧ R (x.run s).2 (y.run t).2

structure Told.Mirrors (R : σ → τ → Prop) (see : ν → Option μ) (a : Told ν σ β)
    (b : Told μ τ β) : Prop where
  value : a.value = b.value
  notes : a.notes.filterMap see = b.notes
  state : R a.state b.state

namespace Noted

def Mirrors (R : σ → τ → Prop) (see : ν → Option μ) (x : Noted ν σ β) (y : Noted μ τ β) : Prop :=
  ∀ path s t, R s t → (x.run path s).Mirrors R see (y.run path t)

namespace Mirrors

theorem pure (b : β) :
    Mirrors R see (Pure.pure b : Noted ν σ β) (Pure.pure b : Noted μ τ β) :=
  fun _ _ _ h => ⟨rfl, rfl, h⟩

theorem bind {x : Noted ν σ β} {y : Noted μ τ β} {f : β → Noted ν σ γ} {g : β → Noted μ τ γ}
    (h : x.Mirrors R see y) (k : ∀ b, (f b).Mirrors R see (g b)) :
    (x >>= f).Mirrors R see (y >>= g) := by
  intro path s t hst
  have hx := h path s t hst
  have hf := k (x.run path s).value path _ _ hx.state
  simp only [run_bind, ← hx.value]
  exact ⟨hf.value, by rw [List.filterMap_append, hx.notes, hf.notes], hf.state⟩

theorem ask {x : StateM σ β} {y : StateM τ β} {tell : β → ν} {tell' : β → μ}
    (h : Couples R x y) (ht : ∀ b, see (tell b) = some (tell' b)) :
    (ask x tell).Mirrors R see (ask y tell') := by
  intro path s t hst
  obtain ⟨hvalue, hstate⟩ := h s t hst
  rw [run_ask, run_ask, hvalue]
  exact ⟨rfl, by simp [ht], hstate⟩

theorem log {α : Type} {see : Note α → Option (Note α)} {event : Log.Event}
    (h : ∀ path, see (.log ⟨event, path⟩) = some (.log ⟨event, path⟩)) :
    (Noted.log event : Noted (Note α) σ Unit).Mirrors R see (Noted.log event) := by
  intro path s t hst
  exact ⟨rfl, by simp [h], hst⟩

/-- A computation of which nothing is seen is mirrored by none at all. -/
theorem hidden {x : Noted ν σ Unit}
    (h : ∀ path s t, R s t → (x.run path s).notes.filterMap see = [] ∧ R (x.run path s).state t) :
    x.Mirrors R see (Pure.pure ()) :=
  fun path s t hst => ⟨rfl, (h path s t hst).1, (h path s t hst).2⟩

end Mirrors

end Noted

end Reattempt
