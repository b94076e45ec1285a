import Reattempt.Proofs.Backoff.Total
import Reattempt.Proofs.Run.Drive
import Reattempt.Proofs.World.Numbers

/-! # The timetable of a run

On a scheduler that is on time, an attempt begins when the attempts before it and the waits after
them have passed, and nothing else takes time. -/

namespace Reattempt

variable {σ φ α : Type}

/-! ## How long an operation takes -/

namespace Operation

/-- A begun operation that has asked to wait for `spent` nanoseconds in all. -/
inductive Spends (o : Operation σ φ α) : φ → Nat → Prop where
  | begun {s t operation} (h : o.call.run s = (.returned operation, t)) : Spends o operation 0
  | pending {s t operation next pause spent} (h : Spends o operation spent)
      (hp : (o.poll operation).run s = (.pending next pause, t)) :
      Spends o next (spent + pause.nanos)

/-- From the call of the operation to its end, it asks to wait for `spent` nanoseconds in all. A
call that panics ends at once. -/
inductive Takes (o : Operation σ φ α) : Nat → Prop where
  | refused {s t payload} (h : o.call.run s = (.panicked payload, t)) : Takes o 0
  | ended {s t operation reply spent} (h : o.Spends operation spent)
      (hp : (o.poll operation).run s = (.done reply, t)) : Takes o spent

end Operation

def Step.elapsed : Step φ α → Nat
  | suspended _ pause => pause.nanos
  | settled _ => 0
  | retry delay => delay.nanos

namespace Config

/-- What an attempt comes to whose operation has asked to wait for `spent` nanoseconds before. -/
inductive Turn (c : Config σ φ α) : Nat → Step φ α → Prop where
  | cancelled : Turn c 0 (.settled (.error (.cancelled c.session)))
  | pending {spent next pause} (h : c.operation.Spends next (spent + pause.nanos)) :
      Turn c spent (.suspended next pause)
  | retried {spent delay} (h : c.operation.Takes spent) : Turn c spent (.retry delay)
  | settled {spent outcome} (h : c.operation.Takes spent)
      (ho : ∀ session, outcome ≠ .error (.cancelled session)) : Turn c spent (.settled outcome)

variable {c : Config σ φ α} {spent : Nat} (attempt : UInt32) (path : List Log.Span) (s : σ)

theorem fail_turn (h : c.operation.Takes spent) (f : Failure) :
    c.Turn spent ((c.fail attempt f).run path s).value := by
  rw [fail_eq, Noted.run_bind]
  dsimp only
  generalize ((c.report f.bare).run path s).state = t
  rw [run_verdict]
  rcases (c.classifier.judge f.bare).run t with ⟨(_ | _) | payload, u⟩
  · exact .settled h (by simp)
  · exact .retried h
  · exact .settled h (by simp)

theorem resume_turn {operation : φ} (h : c.operation.Spends operation spent) :
    c.Turn spent ((c.resume attempt operation).run path s).value := by
  simp only [resume, Noted.run_bind, Noted.run_ask]
  rcases hp : (c.operation.poll operation).run s with ⟨⟨next, pause⟩ | ((f | value) | payload), t⟩
  · exact .pending (h.pending hp)
  · exact fail_turn attempt path t (.ended h hp) f
  · exact .settled (.ended h hp) (by simp)
  · exact fail_turn attempt path t (.ended h hp) _

theorem start_turn : c.Turn 0 ((c.start attempt).run path s).value := by
  rw [run_start]
  rcases c.check.poll.run s with ⟨(_ | _) | payload, t⟩
  · simp only [begin, Noted.run_bind, Noted.run_ask]
    rcases hc : c.operation.call.run t with ⟨operation | payload, u⟩
    · exact resume_turn attempt path u (.begun hc)
    · exact fail_turn attempt path u (.refused hc) _
  · exact .cancelled
  · exact .cancelled

end Config

/-! ## Counting checks and ends -/

namespace Act

/-- The end of what an attempt calls: of the call, if that panics, or of the begun operation. -/
def ends : Act α → Bool
  | called (.panicked _) => true
  | polled (some _) => true
  | _ => false

def settles (a : Act α) : Bool := a.outcome?.isSome

end Act

/-- The attempt whose operation is the next to end. One that was cancelled has none. -/
def Phase.ending : Phase φ α → Nat
  | unstarted => 1
  | waiting n | cleared n | running n _ => n
  | decided n (.error (.cancelled _)) | finished n (.error (.cancelled _)) => n
  | failed n _ | reported n _ | accepted n | decided n _ | finished n _ => n + 1

namespace Config

variable {c : Config σ φ α} {p q : Phase φ α} {a : Act α} {ms : List (Moment σ α)}

theorem Edge.ending_eq (h : c.Edge p a q) : q.ending = p.ending + a.ends.toNat := by
  cases h with
  | @settle n outcome => rcases outcome with (_ | _ | _) | _ <;> rfl
  | _ => rfl

theorem Path.ending_eq (h : c.Path p ms q) :
    q.ending = p.ending + (ms.map Moment.act).countP Act.ends := by
  induction h with
  | nil => rfl
  | cons hr _ ih =>
      have hm := hr.edge.ending_eq
      rw [List.map_cons, Act.countP_cons]
      omega

/-- A run settles once, and only where it is finished. -/
theorem Path.settles_eq (h : c.Path p ms q) (hp : p.slot = .waiting) :
    (ms.map Moment.act).countP Act.settles = q.slot.outcome?.toList.length := by
  have hs := h.settlements
  rw [hp] at hs
  rw [← hs]
  exact List.length_filterMap_eq_countP.symm

end Config

/-! ## When attempts begin and end -/

/-- When the attempt with number `n`, counted from zero, begins, if the ones before it take `d`. -/
def Config.begins (c : Config σ φ α) (start : Nat) (d : Nat → Nat) (n : Nat) : Nat :=
  start + ((List.range n).map fun i => d i + (c.backoff.delay (.ofNat (i + 1))).nanos).sum

/-- The times at which something is done. -/
def timesOf (see : Act α → Bool) (acts : List (Nat × Act α)) : List Nat :=
  (acts.filter fun x => see x.2).map Prod.fst

theorem timesOf_stamped (see : Act α → Bool) (acts : List (Nat × Act α)) (time : Nat)
    (more : List (Act α)) : timesOf see (acts ++ more.map (Prod.mk time)) =
      timesOf see acts ++ List.replicate (more.countP see) time := by
  rw [timesOf, List.filter_append, List.map_append, ← timesOf]
  congr 1
  induction more with
  | nil => rfl
  | cons a more ih =>
      rw [List.map_cons, List.countP_cons]
      cases ha : see a <;> simp [ha, ih, List.replicate_succ]

namespace Config

variable (c : Config σ φ α) (start : Nat) (d : Nat → Nat)

theorem begins_succ (n : Nat) : c.begins start d (n + 1) =
    c.begins start d n + d n + (c.backoff.delay (.ofNat (n + 1))).nanos := by
  simp [begins, List.range_succ, Nat.add_assoc]

/-- Where attempts take no time, the next begins when the waits have passed. -/
theorem begins_of_instant {n : Nat} (h : ∀ i < n, d i = 0) :
    c.begins start d n = start + c.backoff.waited n := by
  refine congrArg (start + ·.sum) (List.map_congr_left fun i hi => ?_)
  rw [h i (List.mem_range.mp hi), Nat.zero_add]

/-- How long an attempt takes does not change when earlier ones and itself begin. -/
theorem begins_update {n m : Nat} (h : n ≤ m) (taken : Nat) :
    c.begins start (Function.update d m taken) n = c.begins start d n := by
  refine congrArg (start + ·.sum) (List.map_congr_left fun i hi => ?_)
  rw [Function.update_of_ne (by have := List.mem_range.mp hi; omega)]

/-- So far `k` checks and `e` ends were at their times, and the operations that ended took `d`. -/
structure OnTime (acts : List (Nat × Act α)) (k e : Nat) : Prop where
  checks : timesOf Act.checks acts = (List.range k).map (c.begins start d)
  ends : timesOf Act.ends acts = (List.range e).map fun i => c.begins start d i + d i
  takes : ∀ i < e, c.operation.Takes (d i)

variable {c start d} {acts : List (Nat × Act α)} {k e m : Nat}

theorem OnTime.update (h : c.OnTime start d acts k e) (hk : k ≤ m + 1) (he : e ≤ m)
    (taken : Nat) : c.OnTime start (Function.update d m taken) acts k e where
  checks := by
    rw [h.checks]
    refine List.map_congr_left fun i hi => ?_
    rw [c.begins_update start d (by have := List.mem_range.mp hi; omega)]
  ends := by
    rw [h.ends]
    refine List.map_congr_left fun i hi => ?_
    have hlt := List.mem_range.mp hi
    rw [c.begins_update start d (by omega), Function.update_of_ne (by omega)]
  takes i hi := by
    rw [Function.update_of_ne (by omega)]
    exact h.takes i hi

/-- What attempt `m` does at one time: if it polls its check, that is when it begins, and if its
operation ends, that is when it has taken `d m`. -/
theorem OnTime.append (h : c.OnTime start d acts k m) {more : List (Act α)} {time : Nat}
    (hm : m ≤ k) (hk : k + more.countP Act.checks = m + 1) (he : more.countP Act.ends ≤ 1)
    (hbegins : k = m → time = c.begins start d m)
    (hends : more.countP Act.ends = 1 → time = c.begins start d m + d m ∧ c.operation.Takes (d m)) :
    c.OnTime start d (acts ++ more.map (Prod.mk time)) (m + 1) (m + more.countP Act.ends) where
  checks := by
    rw [timesOf_stamped, h.checks]
    obtain rfl | rfl : k = m ∨ k = m + 1 := by omega
    · have hone : more.countP Act.checks = 1 := by omega
      rw [hone, hbegins rfl, List.range_succ, List.map_append]
      rfl
    · have hnone : more.countP Act.checks = 0 := by omega
      rw [hnone, List.replicate_zero, List.append_nil]
  ends := by
    rw [timesOf_stamped, h.ends]
    obtain hnone | hone : more.countP Act.ends = 0 ∨ more.countP Act.ends = 1 := by omega
    · rw [hnone, List.replicate_zero, List.append_nil, Nat.add_zero]
    · rw [hone, (hends hone).1, List.range_succ, List.map_append]
      rfl
  takes i hi := by
    by_cases him : i < m
    · exact h.takes i him
    · obtain ⟨rfl, hone⟩ : i = m ∧ more.countP Act.ends = 1 := by omega
      exact (hends hone).2

/-! ## The timetable -/

/-- Attempt `n` is to be made, or its operation has asked to wait for `spent` nanoseconds. -/
inductive Underway (c : Config σ φ α) (n : Nat) : Phase φ α → Nat → Prop where
  | waiting : Underway c n (.waiting n) 0
  | running {operation spent} (h : c.operation.Spends operation spent) :
      Underway c n (.running n operation) spent

/-- Where a run rests, what it has done was on time, and it goes on at the given time: when its next
attempt begins, or when its operation has waited. A run that is finished has done its last act when
its last attempt ended, which takes no time if that was cancelled. -/
inductive Timetable (c : Config σ φ α) (start : Nat) (d : Nat → Nat) (acts : List (Nat × Act α)) :
    Phase φ α → Nat → Prop where
  | underway {m p spent} (h : c.Underway (m + 1) p spent)
      (kept : c.OnTime start d acts (p.next - 1) m)
      (unsettled : timesOf Act.settles acts = []) :
      Timetable c start d acts p (c.begins start d m + spent)
  | finished {m e outcome} (kept : c.OnTime start d acts (m + 1) e)
      (settled : timesOf Act.settles acts = [c.begins start d m + d m])
      (last : (∃ session, outcome = .error (.cancelled session)) ∧ e = m ∧ d m = 0 ∨
        (∀ session, outcome ≠ .error (.cancelled session)) ∧ e = m + 1) :
      Timetable c start d acts (.finished (m + 1) outcome) (c.begins start d m + d m)

theorem Underway.counts {n spent : Nat} {p : Phase φ α} (h : c.Underway n p spent) :
    p.slot = .waiting ∧ p.ending = n ∧ (p.next = n ∧ spent = 0 ∨ p.next = n + 1) := by
  cases h with
  | waiting => exact ⟨rfl, rfl, .inl ⟨rfl, rfl⟩⟩
  | running _ => exact ⟨rfl, rfl, .inr rfl⟩

theorem ending_finished {outcome : Outcome α} {n : Nat}
    (h : ∀ session, outcome ≠ .error (.cancelled session)) :
    (.finished n outcome : Phase φ α).ending = n + 1 := by
  rcases outcome with (_ | session | _) | _
  · rfl
  · exact absurd rfl (h session)
  · rfl
  · rfl

/-- An operation has ended after the turn of its attempt unless it is pending or was not called. -/
theorem Turn.counts {n spent : Nat} {step : Step φ α} (h : c.Turn spent step) :
    (step.rest n).next = n + 1 ∧
      ((step.rest n).ending = n ∨ (step.rest n).ending = n + 1 ∧ c.operation.Takes spent) := by
  cases h with
  | cancelled => exact ⟨rfl, .inl rfl⟩
  | pending _ => exact ⟨rfl, .inl rfl⟩
  | retried h => exact ⟨rfl, .inr ⟨rfl, h⟩⟩
  | settled h ho => exact ⟨rfl, .inr ⟨ending_finished ho, h⟩⟩

/-- The ticket of an attempt that is under way takes its turn. -/
theorem Underway.traced {n r spent : Nat} {p : Phase φ α} {t : Ticket φ} (h : c.Underway n p spent)
    (hp : p.ticket? r = some t) (path : List Log.Span) (s : σ) :
    let told := (c.proceed t.attempt t.stage).run path s
    t.attempt = .ofNat n ∧ c.Traced path s n p (c.proceedTrail t.stage s) told ∧
      c.Turn spent told.value := by
  cases h with
  | waiting =>
      cases hp
      exact ⟨rfl, c.start_traced path s n, start_turn (.ofNat n) path s⟩
  | @running operation _ h =>
      cases hp
      exact ⟨rfl, c.resume_traced path s n operation, resume_turn (.ofNat n) path s h⟩

/-- Whatever an attempt does in its turn, its run stays on time. -/
theorem Underway.turn {p : Phase φ α} {spent : Nat} (h : c.Underway (m + 1) p spent)
    (kept : c.OnTime start d acts (p.next - 1) m) (unsettled : timesOf Act.settles acts = [])
    {step : Step φ α} (ht : c.Turn spent step) {ms : List (Moment σ α)}
    (path : c.Path p ms (step.rest (m + 1)))
    (hdelay : ∀ delay, step = .retry delay → delay = c.backoff.delay (.ofNat (m + 1))) :
    ∃ taken, c.Timetable start (Function.update d m taken)
      (acts ++ (ms.map Moment.act).map (Prod.mk (c.begins start d m + spent)))
      (step.rest (m + 1)) (c.begins start d m + spent + step.elapsed) := by
  obtain ⟨hslot, hending, hnext⟩ := h.counts
  obtain ⟨hnext', hending'⟩ := ht.counts (n := m + 1)
  have hchecks := path.next_eq
  have hends := path.ending_eq
  -- until the operation has ended, how long it takes may be set to what it has spent so far
  refine ⟨spent, ?_⟩
  have hbegins := c.begins_update start d (Nat.le_refl m) spent
  have htaken : Function.update d m spent m = spent := Function.update_self ..
  have hkept : c.OnTime start (Function.update d m spent)
      (acts ++ (ms.map Moment.act).map (Prod.mk (c.begins start d m + spent))) (m + 1)
      (m + (ms.map Moment.act).countP Act.ends) := by
    refine (kept.update (by omega) (Nat.le_refl m) spent).append (by omega) (by omega) (by omega)
      (by omega) fun hone => ?_
    rw [hbegins, htaken]
    obtain hsame | ⟨-, htakes⟩ := hending'
    · omega
    · exact ⟨rfl, htakes⟩
  have htimes : timesOf Act.settles (acts ++ (ms.map Moment.act).map
      (Prod.mk (c.begins start d m + spent))) =
        List.replicate (step.rest (m + 1)).slot.outcome?.toList.length
          (c.begins start d m + spent) := by
    rw [timesOf_stamped, unsettled, path.settles_eq hslot, List.nil_append]
  rw [hending] at hends
  generalize (ms.map Moment.act).countP Act.ends = ended at hends hkept
  cases ht with
  | cancelled =>
      obtain rfl : ended = 0 := Nat.left_eq_add.mp hends
      have hdone := Timetable.finished hkept (by rw [hbegins, htaken]; exact htimes)
        (.inl ⟨⟨c.session, rfl⟩, rfl, htaken⟩)
      rw [hbegins, htaken] at hdone
      exact hdone
  | @pending _ next pause hspends =>
      obtain rfl : ended = 0 := Nat.left_eq_add.mp hends
      have hgoes := Timetable.underway (.running hspends) hkept htimes
      rw [hbegins, ← Nat.add_assoc] at hgoes
      exact hgoes
  | @retried _ delay _ =>
      obtain rfl : ended = 1 := (Nat.add_left_cancel hends).symm
      cases hdelay delay rfl
      have hgoes := Timetable.underway .waiting hkept htimes
      rw [begins_succ, hbegins, htaken] at hgoes
      exact hgoes
  | @settled _ outcome _ ho =>
      obtain rfl : ended = 1 := Nat.add_left_cancel (hends.symm.trans (ending_finished ho))
      have hdone := Timetable.finished hkept (by rw [hbegins, htaken]; exact htimes)
        (.inr ⟨ho, rfl⟩)
      rw [hbegins, htaken] at hdone
      exact hdone

end Config

end Reattempt
