import Reattempt.Log

/-!
# Computations that note what they do

A noted computation knows the spans it runs in, changes a state, and leaves a list of notes in the
order in which they were made. It obeys the monad laws, and the notes of a sequence are those of
its parts one after the other.
-/

namespace Reattempt

/-- What a noted computation leaves behind. -/
structure Told (ν σ β : Type) where
  value : β
  notes : List ν
  state : σ

/-- A computation in some spans, over a state, that makes notes. -/
def Noted (ν σ β : Type) : Type := List Log.Span → σ → Told ν σ β

namespace Noted

variable {ν μ σ τ β γ : Type}

/-- Runs a computation in the given spans and state. -/
def run (x : Noted ν σ β) (spans : List Log.Span) (s : σ) : Told ν σ β := x spans s

instance : Monad (Noted ν σ) where
  pure b := fun _ s => ⟨b, [], s⟩
  bind x f := fun spans s =>
    let first := x spans s
    let second := f first.value spans first.state
    ⟨second.value, first.notes ++ second.notes, second.state⟩

instance : MonadStateOf σ (Noted ν σ) where
  get := fun _ s => ⟨s, [], s⟩
  set s := fun _ _ => ⟨(), [], s⟩
  modifyGet f := fun _ s => let (b, s) := f s; ⟨b, [], s⟩

/-- The spans that the computation runs in. -/
def spans : Noted ν σ (List Log.Span) := fun spans s => ⟨spans, [], s⟩

def note (n : ν) : Noted ν σ Unit := fun _ s => ⟨(), [n], s⟩

/-- Runs a computation in the given spans, whatever spans surround it. -/
def within (path : List Log.Span) (x : Noted ν σ β) : Noted ν σ β := fun _ s => x path s

/-- Asks something that answers and may change the state, and notes the answer. -/
def ask (question : StateM σ β) (tell : β → ν) : Noted ν σ β := fun _ s =>
  let (answer, s) := question.run s
  ⟨answer, [tell answer], s⟩

/-- Runs a computation on a part of a larger state, and passes its notes on in another form. -/
def focus (get : τ → σ) (put : σ → τ → τ) (tell : ν → μ) (x : Noted ν σ β) : Noted μ τ β :=
  fun spans t =>
    let told := x spans (get t)
    ⟨told.value, told.notes.map tell, put told.state t⟩

@[simp] theorem run_pure (b : β) (spans : List Log.Span) (s : σ) :
    (pure b : Noted ν σ β).run spans s = ⟨b, [], s⟩ := rfl

@[simp] theorem run_bind (x : Noted ν σ β) (f : β → Noted ν σ γ) (spans : List Log.Span) (s : σ) :
    (x >>= f).run spans s =
      let first := x.run spans s
      let second := (f first.value).run spans first.state
      ⟨second.value, first.notes ++ second.notes, second.state⟩ := rfl

@[simp] theorem run_map (f : β → γ) (x : Noted ν σ β) (spans : List Log.Span) (s : σ) :
    (f <$> x).run spans s =
      ⟨f (x.run spans s).value, (x.run spans s).notes, (x.run spans s).state⟩ :=
  congrArg (fun notes => Told.mk _ notes _) (List.append_nil _)

@[simp] theorem run_get (spans : List Log.Span) (s : σ) :
    (get : Noted ν σ σ).run spans s = ⟨s, [], s⟩ := rfl

@[simp] theorem run_set (spans : List Log.Span) (s t : σ) :
    (set t : Noted ν σ PUnit).run spans s = ⟨(), [], t⟩ := rfl

@[simp] theorem run_modifyGet (f : σ → β × σ) (spans : List Log.Span) (s : σ) :
    (modifyGet f : Noted ν σ β).run spans s = ⟨(f s).1, [], (f s).2⟩ := rfl

@[simp] theorem run_modify (f : σ → σ) (spans : List Log.Span) (s : σ) :
    (modify f : Noted ν σ PUnit).run spans s = ⟨(), [], f s⟩ := rfl

@[simp] theorem run_spans (path : List Log.Span) (s : σ) :
    (spans : Noted ν σ _).run path s = ⟨path, [], s⟩ := rfl

@[simp] theorem run_note (n : ν) (spans : List Log.Span) (s : σ) :
    (note n : Noted ν σ Unit).run spans s = ⟨(), [n], s⟩ := rfl

@[simp] theorem run_within (path spans : List Log.Span) (x : Noted ν σ β) (s : σ) :
    (within path x).run spans s = x.run path s := rfl

@[simp] theorem run_ask (question : StateM σ β) (tell : β → ν) (spans : List Log.Span) (s : σ) :
    (ask question tell).run spans s =
      ⟨(question.run s).1, [tell (question.run s).1], (question.run s).2⟩ := rfl

@[simp] theorem run_focus (get : τ → σ) (put : σ → τ → τ) (tell : ν → μ) (x : Noted ν σ β)
    (spans : List Log.Span) (t : τ) :
    (focus get put tell x).run spans t =
      ⟨(x.run spans (get t)).value, (x.run spans (get t)).notes.map tell,
        put (x.run spans (get t)).state t⟩ := rfl

instance : LawfulMonad (Noted ν σ) := LawfulMonad.mk' (Noted ν σ)
  (by
    intro β x
    funext spans s
    exact congrArg (fun notes => Told.mk (x spans s).value notes (x spans s).state)
      (List.append_nil _))
  (by intro β γ b f; rfl)
  (by
    intro β γ δ x f g
    funext spans s
    exact congrArg (fun notes => Told.mk _ notes _) (List.append_assoc _ _ _))

end Noted

end Reattempt
