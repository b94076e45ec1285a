import Reattempt.Proofs.Backoff.Total
import Reattempt.Scheduler.Recorder

/-! # Recorders hide nothing and miss nothing

A recorder keeps its record behind a lock, which a panic poisons. Whatever is asked of a recorder
and however it ends, what is behind it is asked the same as without it, and the record holds all
that was asked for. -/

namespace Reattempt

variable {ω S β : Type}

/-! ## A record behind a lock -/

/-- A record behind a lock that is poisoned once somebody has panicked with it. -/
structure Guarded where
  record : Record
  poisoned : Bool

namespace Guarded

def fresh : Guarded := ⟨.empty, false⟩

/-- What taking the lock gives: a poisoned lock gives its record as an error. -/
def lock (g : Guarded) : Except Record Record :=
  if g.poisoned then .error g.record else .ok g.record

/-- Takes the lock, whether it is poisoned or not, uses the record, and lets the lock go. -/
def hold (g : Guarded) (use : Record → Reply β × Record) : Reply β × Guarded :=
  let (reply, record) := use (match g.lock with
    | .ok record => record
    | .error record => record)
  match reply with
  | .returned b => (.returned b, { g with record := record })
  | .panicked payload => (.panicked payload, ⟨record, true⟩)

/-- Poisoning a lock changes nothing for who takes it later. -/
theorem hold_eq (g : Guarded) (use : Record → Reply β × Record) :
    (g.hold use).1 = (use g.record).1 ∧ (g.hold use).2.record = (use g.record).2 := by
  have hlock : (match g.lock with | .ok record => record | .error record => record) = g.record := by
    unfold lock
    cases g.poisoned <;> rfl
  rw [hold, hlock]
  rcases use g.record with ⟨_ | _, record⟩ <;> exact ⟨rfl, rfl⟩

end Guarded

/-! ## What may be asked of a recorder -/

inductive Question where
  | submissions
  | delays
  | total

inductive Reading where
  | count (n : Nat)
  | delays (ds : List Duration)
  | total (d : Duration)

/-- What a record says. To ask for the sum of delays that no duration can hold is a panic. -/
def Question.ask : Question → Record → Reply Reading
  | submissions, r => .returned (.count r.submissions)
  | delays, r => .returned (.delays r.delays)
  | total, r => match r.total? with
    | some d => .returned (.total d)
    | none => .panicked (.text Duration.overflowText)

inductive Call (ω : Type) where
  | request (when : Request) (w : ω)
  | question (q : Question)

inductive Answer where
  | taken (fate : Fate)
  | told (reply : Reply Reading)

namespace Call

def request? : Call ω → Option (Request × ω)
  | request when w => some (when, w)
  | question _ => none

/-- One call of a recorder in front of `inner`. A request is recorded, and passed on once the lock
has been let go. A question is answered while the lock is held. -/
def perform (inner : Scheduler ω S) : Call ω → Guarded × S → Answer × Guarded × S
  | request when w, (g, s) =>
    let (_, g) := g.hold fun r => (.returned (), r.add when)
    let (fate, s) := inner.take when w s
    (.taken fate, g, s)
  | question q, (g, s) =>
    let (reply, g) := g.hold fun r => (q.ask r, r)
    (.told reply, g, s)

theorem perform_question (inner : Scheduler ω S) (q : Question) (x : Guarded × S) :
    ((question q).perform inner x).1 = .told (q.ask x.1.record) :=
  congrArg Answer.told (x.1.hold_eq fun r => (q.ask r, r)).1

def performAll (inner : Scheduler ω S) : List (Call ω) → Guarded × S → List Answer × Guarded × S
  | [], x => ([], x)
  | call :: calls, x =>
    let (answer, x) := call.perform inner x
    let (answers, x) := performAll inner calls x
    (answer :: answers, x)

end Call

def Answer.fate? : Answer → Option Fate
  | taken fate => some fate
  | told _ => none

namespace Scheduler

/-- Requests made of a scheduler one after the other. -/
def takeAll (s : Scheduler ω S) : List (Request × ω) → S → List Fate × S
  | [], t => ([], t)
  | (when, w) :: rest, t =>
    let (fate, t) := s.take when w t
    let (fates, t) := takeAll s rest t
    (fate :: fates, t)

/-- A scheduler that keeps all that it is handed in a log. -/
def logged (inner : Scheduler ω S) : Scheduler ω (List (Request × ω) × S) where
  take when w x :=
    let (fate, s) := inner.take when w x.2
    (fate, x.1 ++ [(when, w)], s)

theorem log_takeAll (inner : Scheduler ω S) (requests : List (Request × ω))
    (x : List (Request × ω) × S) : (inner.logged.takeAll requests x).2.1 = x.1 ++ requests := by
  induction requests generalizing x with
  | nil => exact (List.append_nil _).symm
  | cons request rest ih =>
      obtain ⟨when, w⟩ := request
      rw [takeAll, ih, logged, List.append_assoc, List.singleton_append]

end Scheduler

def Request.delay? : Request → Option Duration
  | now => none
  | after delay => some delay

/-- The record of some requests. -/
def Record.ofRequests (requests : List (Request × ω)) : Record :=
  ⟨requests.countP fun request => request.1 = .now, requests.filterMap fun request =>
    request.1.delay?⟩

theorem Record.ofRequests_append (requests : List (Request × ω)) (when : Request) (w : ω) :
    ofRequests (requests ++ [(when, w)]) = (ofRequests requests).add when := by
  cases when <;> simp [ofRequests, Record.add, Request.delay?, List.countP_append]

/-! ## What is asked of a recorder and of what is behind it -/

/-- A recorder passes on the requests that it is handed, and no other, and its record is that of
these requests. -/
theorem Call.performAll_eq (inner : Scheduler ω S) (calls : List (Call ω)) {g : Guarded}
    {past : List (Request × ω)} (hg : g.record = .ofRequests past) (s : S) :
    let played := performAll inner calls (g, s)
    let direct := inner.takeAll (calls.filterMap request?) s
    played.1.filterMap Answer.fate? = direct.1 ∧ played.2.2 = direct.2 ∧
      played.2.1.record = .ofRequests (past ++ calls.filterMap request?) := by
  induction calls generalizing g past s with
  | nil => exact ⟨rfl, rfl, by rw [List.filterMap_nil, List.append_nil]; exact hg⟩
  | cons call calls ih =>
      cases call with
      | request when w =>
          have hadd : (g.hold fun r => (.returned (), r.add when)).2.record =
              .ofRequests (past ++ [(when, w)]) := by
            rw [(g.hold_eq _).2, hg, Record.ofRequests_append]
          obtain ⟨hfates, hstate, hrecord⟩ := ih hadd (inner.take when w s).2
          refine ⟨congrArg (List.cons _) hfates, hstate, hrecord.trans ?_⟩
          rw [List.append_assoc]
          rfl
      | question q =>
          have hsame : (g.hold fun r => (q.ask r, r)).2.record = .ofRequests past := by
            rw [(g.hold_eq _).2, hg]
          exact ih hsame s

/-- The lock of a recorder, poisoned or not, cannot be told from a plain record. -/
theorem Scheduler.takeAll_recording (inner : Scheduler ω S) (requests past : List (Request × ω))
    (s : S) : inner.recording.takeAll requests (.ofRequests past, s) =
      ((inner.takeAll requests s).1, .ofRequests (past ++ requests),
        (inner.takeAll requests s).2) := by
  induction requests generalizing past s with
  | nil => rw [List.append_nil]; rfl
  | cons request rest ih =>
      obtain ⟨when, w⟩ := request
      have hrest := ih (past ++ [(when, w)]) (inner.take when w s).2
      rw [Record.ofRequests_append, List.append_assoc, List.singleton_append] at hrest
      have hcons : inner.recording.takeAll ((when, w) :: rest) (.ofRequests past, s) =
          ((inner.take when w s).1 ::
              (inner.recording.takeAll rest
                ((Record.ofRequests past).add when, (inner.take when w s).2)).1,
            (inner.recording.takeAll rest
              ((Record.ofRequests past).add when, (inner.take when w s).2)).2) := rfl
      rw [hcons, hrest]
      rfl

/-- The three questions about a record of requests. The sum of the delays is exact, or a panic. -/
theorem Question.ask_ofRequests (requests : List (Request × ω)) :
    let delays := requests.filterMap fun request => request.1.delay?
    submissions.ask (.ofRequests requests) =
        .returned (.count (requests.countP fun request => request.1 = .now)) ∧
      Question.delays.ask (.ofRequests requests) = .returned (.delays delays) ∧
      total.ask (.ofRequests requests) =
        if h : (delays.map Duration.nanos).sum ≤ Duration.maxNanos then
          .returned (.total ⟨(delays.map Duration.nanos).sum, h⟩)
        else .panicked (.text Duration.overflowText) := by
  intro delays
  refine ⟨rfl, rfl, ?_⟩
  have htotal : (Record.ofRequests requests).total? =
      Duration.ofNanos? (delays.map Duration.nanos).sum := Duration.sum?_eq delays
  by_cases h : (delays.map Duration.nanos).sum ≤ Duration.maxNanos
  · rw [ask, htotal, dif_pos h, Duration.ofNanos?, dif_pos h]
  · rw [ask, htotal, dif_neg h, Duration.ofNanos?_eq_none_iff.mpr (Nat.lt_of_not_le h)]

end Reattempt
