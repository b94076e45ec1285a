import Reattempt.Proofs.Run.Ledger

/-! # What the notifier is told

The notifier, if there is one, is told of every failure that is classified, whether it panics or
not, and each of its panics is written down once. -/

namespace Reattempt

variable {σ φ α : Type}

namespace Act

def notified? : Act α → Option Failure
  | notified cause _ => some cause
  | _ => none

def classified? : Act α → Option Failure
  | classified cause _ => some cause
  | _ => none

/-- The warning about a notifier that panicked. -/
def alarm? : Act α → Option Log.Event
  | notified _ (.panicked payload) =>
    some (.notifierPanicked (Failure.ofPayload payload).text payload.message)
  | _ => none

end Act

def Note.warning? : Note α → Option Log.Event
  | act _ => none
  | log entry => if entry.event.level = .warn then some entry.event else none

/-- The cause that was shown to the notifier and is still to be classified. -/
def Phase.shown : Phase φ α → List Failure
  | reported _ f => [f.bare]
  | _ => []

namespace Config

variable {c : Config σ φ α} {parent : List Log.Span} {p q : Phase φ α} {a : Act α}
  {m : Moment σ α} {ms : List (Moment σ α)} {notes : List (Note α)}

theorem writes_warnings (c : Config σ φ α) (p : Phase φ α) (a : Act α) :
    (c.writes p a).filter (fun event => event.level = .warn) = a.alarm?.toList := by
  cases a with
  | checked reply => rcases reply with (_ | _) | payload <;> rfl
  | polled reply => rcases reply with _ | ((f | value) | payload) <;> rfl
  | notified cause reply => cases reply <;> rfl
  | classified cause reply => rcases reply with (_ | _) | payload <;> cases p <;> rfl
  | _ => rfl

theorem Noting.warnings (h : c.Noting parent p a notes) :
    notes.filterMap Note.warning? = a.alarm?.toList := by
  cases h with
  | usual a =>
      have hsee : (Note.warning? ∘ fun event : Log.Event =>
          (.log ⟨event, c.spansAt parent p.number⟩ : Note α)) =
            Option.guard fun event => event.level = .warn := by
        funext event
        simp [Note.warning?, Option.guard]
      rw [← c.writes_warnings p a, List.filterMap_cons_none rfl, List.filterMap_map, hsee,
        List.filterMap_eq_filter]
  | unheard outcome => rfl

theorem Ledger.warnings (h : c.Ledger parent p ms notes q) :
    notes.filterMap Note.warning? = (ms.map Moment.act).filterMap Act.alarm? := by
  induction h with
  | nil => rfl
  | @cons p q r m ms notes rest _ hn _ ih =>
      rw [List.filterMap_append, hn.warnings, ih, List.map_cons, Act.filterMap_cons]

/-- A notifier is shown the causes that are classified, each of them first. -/
theorem Rule.notices (h : c.Rule p m q) (hn : c.notifier.isSome) :
    p.shown ++ m.act.notified?.toList = m.act.classified?.toList ++ q.shown := by
  have hfailed : ∀ n f, (c.afterFailure n f).shown = [] := by
    intro n f
    obtain ⟨notifier, hsome⟩ := Option.isSome_iff_exists.mp hn
    rw [afterFailure, hsome]
    rfl
  cases h with
  | @refuse n _ _ payload _ => exact (hfailed n _).symm
  | @finish n _ _ _ reply _ =>
      rcases reply with (f | value) | payload
      · exact (hfailed n f).symm
      · rfl
      · exact (hfailed n _).symm
  | _ => rfl

theorem Path.notices (h : c.Path p ms q) (hn : c.notifier.isSome) :
    p.shown ++ (ms.map Moment.act).filterMap Act.notified? =
      (ms.map Moment.act).filterMap Act.classified? ++ q.shown := by
  -- the notices are one ahead where a cause is still to be classified
  induction h with
  | nil => simp
  | @cons p q r m ms hr _ ih =>
      rw [List.map_cons, Act.filterMap_cons, Act.filterMap_cons, ← List.append_assoc,
        hr.notices hn, List.append_assoc, ih, List.append_assoc]

theorem Path.no_notices (h : c.Path p ms q) (hn : c.notifier = none) :
    (ms.map Moment.act).filterMap Act.notified? = [] := by
  rw [List.filterMap_eq_nil_iff]
  intro a ha
  obtain ⟨m, hm, rfl⟩ := List.mem_map.mp ha
  obtain ⟨front, back, rfl⟩ := List.append_of_mem hm
  obtain ⟨p', q', -, hr, -⟩ := h.split_cons
  cases hr with
  | notify hsome _ => exact absurd (hsome.symm.trans hn) (by simp)
  | _ => rfl

end Config

end Reattempt
