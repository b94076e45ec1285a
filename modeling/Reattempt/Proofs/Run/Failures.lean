import Mathlib.Logic.Function.Iterate
import Reattempt.Proofs.Run.Rules

/-! # What becomes of a failure

A failure has two views. The notifier and the classifier are shown the bare failure, the outcome
keeps it with all its layers. -/

namespace Reattempt

variable {σ φ α : Type}

namespace Failure

/-- The number of completion layers around a failure. -/
def layers : Failure → Nat
  | completion cause => cause.layers + 1
  | _ => 0

/-- A failure without its completion layers. -/
def core : Failure → Failure
  | completion cause => cause.core
  | f => f

theorem completion_core (f : Failure) : completion^[f.layers] f.core = f := by
  induction f with
  | completion cause ih => rw [layers, core, Function.iterate_succ_apply', ih]
  | _ => rfl

/-- Baring a failure takes one layer off, if there is one. -/
theorem bare_eq (f : Failure) : f.bare = completion^[f.layers - 1] f.core := by
  cases f with
  | completion cause => exact cause.completion_core.symm
  | _ => rfl

end Failure

/-- The failure that an operation comes to in an act: that of a panic while it is called, the one
that it returns, or that of a panic while it is polled, which has one completion layer. -/
def Act.failure? : Act α → Option Failure
  | called (.panicked payload) => some (.ofPayload payload)
  | polled (some (.returned (.error failure))) => some failure
  | polled (some (.panicked payload)) => some (.completion (.ofPayload payload))
  | _ => none

namespace Config

variable {c : Config σ φ α} {p q : Phase φ α} {m : Moment σ α} {ms front back : List (Moment σ α)}
  {n : Nat} {f : Failure}

/-- The moments in which a cause is shown to the notifier: there is one if there is a notifier. -/
def Informs (c : Config σ φ α) (cause : Failure) (ms : List (Moment σ α)) : Prop :=
  match c.notifier with
  | none => ms = []
  | some notifier => ∃ m reply, ms = [m] ∧ m.act = .notified cause reply ∧
      (notifier.consumer cause).run m.before = (reply, m.after)

/-- The moment in which the classifier is asked about a cause. -/
structure Judges (c : Config σ φ α) (cause : Failure) (m : Moment σ α) (reply : Reply Bool) :
    Prop where
  act : m.act = .classified cause reply
  answer : (c.classifier.judge cause).run m.before = (reply, m.after)

/-- What a verdict on a failure leads to: a request for another attempt, or the end of the run with
the whole failure. -/
inductive Sentence (c : Config σ φ α) (f : Failure) :
    Reply Bool → List (Moment σ α) → Phase φ α → Prop where
  | retry {n m later q} (h : m.act = .requested (c.backoff.delay (.ofNat n)))
      (path : c.Path (.waiting (n + 1)) later q) : Sentence c f (.returned true) (m :: later) q
  | fatal {n reply m} (hr : reply ≠ .returned true) (h : m.act = .settled (.error (.fatal f))) :
      Sentence c f reply [m] (.finished n (.error (.fatal f)))

theorem Rule.of_failure (h : c.Rule p m q) (hf : m.act.failure? = some f) :
    ∃ n, q = c.afterFailure n f := by
  cases h with
  | @refuse n s t payload h =>
      cases hf
      exact ⟨n, rfl⟩
  | @finish n s t operation reply h =>
      rcases reply with (failure | value) | payload
      · cases hf
        exact ⟨n, rfl⟩
      · cases hf
      · cases hf
        exact ⟨n, rfl⟩
  | _ => cases hf

/-- A failure is shown to the notifier, if there is one, without its layer. -/
theorem Path.informs (h : c.Path (c.afterFailure n f) ms q) (hq : q.AtRest) :
    ∃ notice rest, ms = notice ++ rest ∧ c.Informs f.bare notice ∧
      c.Path (.reported n f) rest q := by
  cases hn : c.notifier with
  | none =>
      simp only [afterFailure, hn] at h
      exact ⟨[], ms, rfl, by simp [Informs, hn], h⟩
  | some notifier =>
      simp only [afterFailure, hn] at h
      cases h with
      | nil => exact hq.elim
      | @cons _ _ _ m rest hr ht =>
          cases hr with
          | @notify _ s t _ other reply hother hrun =>
              obtain rfl : notifier = other := Option.some.inj (hn.symm.trans hother)
              refine ⟨[_], rest, rfl, ?_, ht⟩
              simp only [Informs, hn]
              exact ⟨_, reply, rfl, rfl, hrun⟩

theorem Path.judges (h : c.Path (.reported n f) ms q) (hq : q.AtRest) :
    ∃ m rest reply, ms = m :: rest ∧ c.Judges f.bare m reply ∧ c.Sentence f reply rest q := by
  cases h with
  | nil => exact hq.elim
  | @cons _ _ _ m rest hr ht =>
      cases hr with
      | accept hrun =>
          obtain ⟨k, later, rfl, hk, hlater⟩ := ht.of_accepted hq
          exact ⟨_, _, _, rfl, ⟨rfl, hrun⟩, .retry hk hlater⟩
      | @reject _ _ _ _ reply hrun hne =>
          obtain ⟨hacts, rfl⟩ := ht.of_decided hq
          obtain ⟨k, rfl, hk⟩ := List.map_eq_singleton_iff.mp hacts
          exact ⟨_, _, reply, rfl, ⟨rfl, hrun⟩, .fatal hne hk⟩

/-- Whatever an operation fails with, the notifier and the classifier are shown the same cause, and
the verdict on it falls on the whole failure. -/
theorem Path.of_failure (h : c.Path p (front ++ m :: back) q) (hq : q.AtRest)
    (hf : m.act.failure? = some f) :
    ∃ notice j rest reply, back = notice ++ j :: rest ∧ c.Informs f.bare notice ∧
      c.Judges f.bare j reply ∧ c.Sentence f reply rest q := by
  obtain ⟨p', q', -, hr, ht⟩ := h.split_cons
  obtain ⟨n, rfl⟩ := hr.of_failure hf
  obtain ⟨notice, rest, rfl, hnotice, ht⟩ := ht.informs hq
  obtain ⟨j, rest, reply, rfl, hj, hs⟩ := ht.judges hq
  exact ⟨notice, j, rest, reply, rfl, hnotice, hj, hs⟩

end Config

end Reattempt
