import Reattempt.Roster

/-! # The rules of a run

What a run may do next, given act by act. The rules do not mention how an attempt is computed: they
say where a run stands, which code of its caller it asks there, and where the answer leads. -/

namespace Reattempt

/-- An act of a run, with what callers' code shared before and after it. -/
structure Moment (σ α : Type) where
  before : σ
  act : Act α
  after : σ

/-- Where a run stands between two acts. Attempts are counted from one, without a bound. -/
inductive Phase (φ α : Type) where
  | unstarted
  /-- Attempt `n` is to be made, at once or after a wait. -/
  | waiting (n : Nat)
  /-- The check of attempt `n` did not stop the run. -/
  | cleared (n : Nat)
  /-- The operation of attempt `n` was begun and has not come to its end. -/
  | running (n : Nat) (operation : φ)
  /-- Attempt `n` failed, and the notifier is to be told. -/
  | failed (n : Nat) (failure : Failure)
  /-- Attempt `n` failed, and the classifier is to be asked. -/
  | reported (n : Nat) (failure : Failure)
  /-- The failure of attempt `n` was accepted. -/
  | accepted (n : Nat)
  /-- Attempt `n` decided the run, whose observers are to be told. -/
  | decided (n : Nat) (outcome : Outcome α)
  | finished (n : Nat) (outcome : Outcome α)

namespace Phase

variable {φ α : Type}

/-- A run at rest does nothing until its work is polled. -/
def AtRest : Phase φ α → Prop
  | waiting _ | running _ _ | finished _ _ => True
  | _ => False

/-- The work of a run at rest, if it has not settled. -/
def ticket? (run : Nat) : Phase φ α → Option (Ticket φ)
  | waiting n => some ⟨run, .ofNat n, .queued⟩
  | running n operation => some ⟨run, .ofNat n, .underway operation⟩
  | _ => none

/-- What observers can see of a run that was not dropped. -/
def slot : Phase φ α → Slot α
  | finished _ outcome => .settled outcome
  | _ => .waiting

theorem slot_of_ticket? {r : Nat} {p : Phase φ α} {t : Ticket φ} (h : p.ticket? r = some t) :
    p.slot = .waiting := by
  cases p <;> cases h <;> rfl

theorem run_of_ticket? {r : Nat} {p : Phase φ α} {t : Ticket φ} (h : p.ticket? r = some t) :
    t.run = r := by
  cases p <;> cases h <;> rfl

theorem filter_ticket?_self (p : Phase φ α) (r : Nat) :
    (p.ticket? r).toList.filter (fun t => t.run = r) = (p.ticket? r).toList := by
  cases p <;> simp [ticket?]

theorem filter_ticket?_other (p : Phase φ α) {r r' : Nat} (h : r ≠ r') :
    (p.ticket? r).toList.filter (fun t => t.run = r') = [] := by
  cases p <;> simp [ticket?, h]

end Phase

namespace Config

variable {σ φ α : Type}

/-- Where a failure leads: to the notifier, if there is one, and else to the classifier. -/
def afterFailure (c : Config σ φ α) (n : Nat) (failure : Failure) : Phase φ α :=
  match c.notifier with
  | none => .reported n failure
  | some _ => .failed n failure

/-- Where the end of an operation leads. -/
def afterEnd (c : Config σ φ α) (n : Nat) : Reply (Except Failure α) → Phase φ α
  | .returned (.ok value) => .decided n (.ok value)
  | .returned (.error failure) => c.afterFailure n failure
  | .panicked payload => c.afterFailure n (.completion (.ofPayload payload))

/-- One act of a run. Each answer is the one that the asked code gives in the state before it. -/
inductive Rule (c : Config σ φ α) : Phase φ α → Moment σ α → Phase φ α → Prop where
  | submit (s) : Rule c .unstarted ⟨s, .submitted, s⟩ (.waiting 1)
  | pass {n s t} (h : c.check.poll.run s = (.returned false, t)) :
      Rule c (.waiting n) ⟨s, .checked (.returned false), t⟩ (.cleared n)
  | stop {n s t reply} (h : c.check.poll.run s = (reply, t)) (hr : reply ≠ .returned false) :
      Rule c (.waiting n) ⟨s, .checked reply, t⟩ (.decided n (.error (.cancelled c.session)))
  | begin {n s t operation} (h : c.operation.call.run s = (.returned operation, t)) :
      Rule c (.cleared n) ⟨s, .called (.returned ()), t⟩ (.running n operation)
  | refuse {n s t payload} (h : c.operation.call.run s = (.panicked payload, t)) :
      Rule c (.cleared n) ⟨s, .called (.panicked payload), t⟩
        (c.afterFailure n (.ofPayload payload))
  | suspend {n s t operation next pause}
      (h : (c.operation.poll operation).run s = (.pending next pause, t)) :
      Rule c (.running n operation) ⟨s, .polled none, t⟩ (.running n next)
  | finish {n s t operation reply}
      (h : (c.operation.poll operation).run s = (.done reply, t)) :
      Rule c (.running n operation) ⟨s, .polled (some reply), t⟩ (c.afterEnd n reply)
  | notify {n s t failure notifier reply} (hn : c.notifier = some notifier)
      (h : (notifier.consumer failure.bare).run s = (reply, t)) :
      Rule c (.failed n failure) ⟨s, .notified failure.bare reply, t⟩ (.reported n failure)
  | accept {n s t failure}
      (h : (c.classifier.judge failure.bare).run s = (.returned true, t)) :
      Rule c (.reported n failure) ⟨s, .classified failure.bare (.returned true), t⟩ (.accepted n)
  | reject {n s t failure reply} (h : (c.classifier.judge failure.bare).run s = (reply, t))
      (hr : reply ≠ .returned true) :
      Rule c (.reported n failure) ⟨s, .classified failure.bare reply, t⟩
        (.decided n (.error (.fatal failure)))
  | request {n} (s) :
      Rule c (.accepted n) ⟨s, .requested (c.backoff.delay (.ofNat n)), s⟩ (.waiting (n + 1))
  | settle {n outcome} (s) :
      Rule c (.decided n outcome) ⟨s, .settled outcome, s⟩ (.finished n outcome)

/-- A list of acts that follow the rules one after another. Between two acts, what callers' code
shares may change. -/
inductive Path (c : Config σ φ α) : Phase φ α → List (Moment σ α) → Phase φ α → Prop where
  | nil (p) : Path c p [] p
  | cons {p q r m ms} : c.Rule p m q → Path c q ms r → Path c p (m :: ms) r

variable {c : Config σ φ α} {p q r : Phase φ α} {m : Moment σ α} {ms ns : List (Moment σ α)}

theorem Path.single (h : c.Rule p m q) : c.Path p [m] q := .cons h (.nil q)

theorem Path.append (h : c.Path p ms q) (k : c.Path q ns r) : c.Path p (ms ++ ns) r := by
  induction h with
  | nil => exact k
  | cons hr _ ih => exact .cons hr (ih k)

theorem Path.split (h : c.Path p (ms ++ ns) r) : ∃ q, c.Path p ms q ∧ c.Path q ns r := by
  induction ms generalizing p with
  | nil => exact ⟨p, .nil p, h⟩
  | cons m ms ih =>
      cases h with
      | cons hr ht =>
          obtain ⟨q, hq, hn⟩ := ih ht
          exact ⟨q, .cons hr hq, hn⟩

theorem Path.split_cons (h : c.Path p (ms ++ m :: ns) r) :
    ∃ q q', c.Path p ms q ∧ c.Rule q m q' ∧ c.Path q' ns r := by
  obtain ⟨q, hq, hn⟩ := h.split
  cases hn with
  | cons hr ht => exact ⟨q, _, hq, hr, ht⟩

theorem Path.split_act {as bs : List (Act α)} {a : Act α} (h : c.Path p ms q)
    (ha : ms.map Moment.act = as ++ a :: bs) :
    ∃ ks m ns p' q', ms = ks ++ m :: ns ∧ ks.map Moment.act = as ∧ m.act = a ∧
      ns.map Moment.act = bs ∧ c.Path p ks p' ∧ c.Rule p' m q' ∧ c.Path q' ns q := by
  obtain ⟨ks, ls, rfl, hks, hls⟩ := List.map_eq_append_iff.mp ha
  obtain ⟨m, ns, rfl, hm, hns⟩ := List.map_eq_cons_iff.mp hls
  obtain ⟨p', q', hp, hr, hq⟩ := h.split_cons
  exact ⟨ks, m, ns, p', q', rfl, hks, hm, hns, hp, hr, hq⟩

/-! ## What is left of a run

Where a run stands and comes to rest again, its next acts are known up to the answers. -/

theorem Path.of_unstarted (h : c.Path .unstarted ms q) (hq : q.AtRest) :
    ∃ m ns, ms = m :: ns ∧ m.act = .submitted ∧ c.Path (.waiting 1) ns q := by
  cases h with
  | nil => exact hq.elim
  | cons hr ht =>
      cases hr
      exact ⟨_, _, rfl, rfl, ht⟩

theorem Path.of_finished {n : Nat} {o : Outcome α} (h : c.Path (.finished n o) ms q) :
    ms = [] ∧ q = .finished n o := by
  cases h with
  | nil => exact ⟨rfl, rfl⟩
  | cons hr _ => cases hr

theorem Path.of_decided {n : Nat} {o : Outcome α} (h : c.Path (.decided n o) ms q)
    (hq : q.AtRest) : ms.map Moment.act = [.settled o] ∧ q = .finished n o := by
  cases h with
  | nil => exact hq.elim
  | cons hr ht =>
      cases hr
      obtain ⟨rfl, rfl⟩ := ht.of_finished
      exact ⟨rfl, rfl⟩

theorem Path.of_accepted {n : Nat} (h : c.Path (.accepted n) ms q) (hq : q.AtRest) :
    ∃ m ns, ms = m :: ns ∧ m.act = .requested (c.backoff.delay (.ofNat n)) ∧
      c.Path (.waiting (n + 1)) ns q := by
  cases h with
  | nil => exact hq.elim
  | cons hr ht =>
      cases hr
      exact ⟨_, _, rfl, rfl, ht⟩

/-- The classifier either accepts the bare failure or ends the run with the whole one. -/
theorem Path.of_reported {n : Nat} {f : Failure} (h : c.Path (.reported n f) ms q)
    (hq : q.AtRest) : ∃ m ns reply, ms = m :: ns ∧ m.act = .classified f.bare reply ∧
      (reply = .returned true ∧ c.Path (.accepted n) ns q ∨
        reply ≠ .returned true ∧ c.Path (.decided n (.error (.fatal f))) ns q) := by
  cases h with
  | nil => exact hq.elim
  | cons hr ht =>
      cases hr with
      | accept _ => exact ⟨_, _, _, rfl, rfl, .inl ⟨rfl, ht⟩⟩
      | reject _ hne => exact ⟨_, _, _, rfl, rfl, .inr ⟨hne, ht⟩⟩

/-- A failure is shown to the notifier, if there is one, before the classifier is asked. -/
theorem Path.of_afterFailure {n : Nat} {f : Failure} (h : c.Path (c.afterFailure n f) ms q)
    (hq : q.AtRest) : ∃ (ks : List (Moment σ α)) (ns : _) (notice : Option (Reply Unit)),
      ms = ks ++ ns ∧ notice.isSome = c.notifier.isSome ∧
      ks.map Moment.act = notice.toList.map (.notified f.bare) ∧ c.Path (.reported n f) ns q := by
  cases hn : c.notifier with
  | none =>
      simp only [afterFailure, hn] at h
      exact ⟨[], ms, none, rfl, rfl, rfl, h⟩
  | some notifier =>
      simp only [afterFailure, hn] at h
      cases h with
      | nil => exact hq.elim
      | cons hr ht =>
          cases hr with
          | @notify _ _ _ _ _ reply _ _ => exact ⟨[_], _, some reply, rfl, rfl, rfl, ht⟩

/-- A begun operation is polled while it is pending, and once more to its end. -/
theorem Path.of_running {n : Nat} {operation : φ} (h : c.Path (.running n operation) ms q) :
    (∃ k next, ms.map Moment.act = List.replicate k (.polled none) ∧ q = .running n next) ∨
      ∃ k reply ks ns, ms = ks ++ ns ∧
        ks.map Moment.act = List.replicate k (.polled none) ++ [.polled (some reply)] ∧
        c.Path (c.afterEnd n reply) ns q := by
  induction ms generalizing operation with
  | nil =>
      cases h
      exact .inl ⟨0, operation, rfl, rfl⟩
  | cons m ms ih =>
      cases h with
      | cons hr ht =>
          cases hr with
          | suspend _ =>
              rcases ih ht with ⟨k, next, hk, rfl⟩ | ⟨k, reply, ks, ns, rfl, hk, hp⟩
              · exact .inl ⟨k + 1, next, by simp [hk, List.replicate_succ], rfl⟩
              · exact .inr ⟨k + 1, reply, _ :: ks, ns, rfl,
                  by simp [hk, List.replicate_succ], hp⟩
          | @finish _ _ _ _ reply _ => exact .inr ⟨0, reply, [_], ms, rfl, rfl, ht⟩

theorem Path.of_cleared {n : Nat} (h : c.Path (.cleared n) ms q) (hq : q.AtRest) :
    ∃ m ns, ms = m :: ns ∧
      ((m.act = .called (.returned ()) ∧ ∃ operation, c.Path (.running n operation) ns q) ∨
        ∃ payload, m.act = .called (.panicked payload) ∧
          c.Path (c.afterFailure n (.ofPayload payload)) ns q) := by
  cases h with
  | nil => exact hq.elim
  | cons hr ht =>
      cases hr with
      | begin _ => exact ⟨_, _, rfl, .inl ⟨rfl, _, ht⟩⟩
      | refuse _ => exact ⟨_, _, rfl, .inr ⟨_, rfl, ht⟩⟩

/-- An attempt that is made polls the check, which stops the run or lets the attempt go on. -/
theorem Path.of_waiting {n : Nat} (h : c.Path (.waiting n) ms q) :
    (ms = [] ∧ q = .waiting n) ∨ ∃ m ns reply, ms = m :: ns ∧ m.act = .checked reply ∧
      (reply = .returned false ∧ c.Path (.cleared n) ns q ∨ reply ≠ .returned false ∧
        c.Path (.decided n (.error (.cancelled c.session))) ns q) := by
  cases h with
  | nil => exact .inl ⟨rfl, rfl⟩
  | cons hr ht =>
      cases hr with
      | pass _ => exact .inr ⟨_, _, _, rfl, rfl, .inl ⟨rfl, ht⟩⟩
      | stop _ hne => exact .inr ⟨_, _, _, rfl, rfl, .inr ⟨hne, ht⟩⟩

end Config

end Reattempt
