import Reattempt.Proofs.Run.Attempts
import Reattempt.Proofs.Run.Failures
import Reattempt.Proofs.Run.Farewell
import Reattempt.Proofs.Run.Notices
import Reattempt.Proofs.Run.Tally
import Reattempt.Proofs.World.Numbers

/-! # The entries of an attempt

What a run writes in an attempt, given for each way in which the attempt may end, and the proof that
the entries of a run are those of its attempts in their order. -/

namespace Reattempt

variable {σ φ α : Type}

/-- What is written in an attempt that has not come to its end. -/
def Stage.events : Stage φ → List Log.Event
  | queued => []
  | underway _ => [.starting]

namespace Config

/-- The acts of attempt `n`, what it decides, and what is written in it. Entries that end a failed
attempt show the failure as it was, and not only what the notifier and the classifier see of it. -/
inductive Reports (c : Config σ φ α) (n : Nat) :
    List (Act α) → Option (Outcome α) → List Log.Event → Prop where
  | gone : Reports c n [.checked (.returned true)] (some (.error (.cancelled c.session)))
      [.clientGone]
  | checkPanicked (payload : Payload) : Reports c n [.checked (.panicked payload)]
      (some (.error (.cancelled c.session)))
      [.checkPanicked (Failure.ofPayload payload).text, .clientGone]
  | succeeded {acts value} (h : Effort acts (.ok value)) :
      Reports c n (.checked (.returned false) :: acts) (some (.ok value)) [.starting, .succeeded]
  | rejected {acts f notice} (h : Effort acts (.error f)) (hn : c.Notice f notice) :
      Reports c n
        (.checked (.returned false) :: (acts ++ notice ++ [.classified f.bare (.returned false)]))
        (some (.error (.fatal f)))
        (.starting :: (notice.filterMap Act.alarm? ++
          [.permanentlyFailed c.session c.action f.text]))
  | classifierPanicked {acts f notice} (payload : Payload) (h : Effort acts (.error f))
      (hn : c.Notice f notice) : Reports c n
        (.checked (.returned false) :: (acts ++ notice ++ [.classified f.bare (.panicked payload)]))
        (some (.error (.fatal f)))
        (.starting :: (notice.filterMap Act.alarm? ++
          [.classifierPanicked (Failure.ofPayload payload).text,
            .permanentlyFailed c.session c.action f.text]))
  | retried {acts f notice} (h : Effort acts (.error f)) (hn : c.Notice f notice) :
      Reports c n
        (.checked (.returned false) :: (acts ++ notice ++ [.classified f.bare (.returned true),
          .requested (c.backoff.delay (.ofNat n))]))
        none
        (.starting :: (notice.filterMap Act.alarm? ++ [.failed c.session c.action f.text,
          .waiting c.session c.action (c.backoff.delay (.ofNat n))]))

/-- The last acts of a run, made in attempt `n`, and what is written with them: the attempt has not
come to its end, or it has decided the run. -/
inductive Latest (c : Config σ φ α) (n : Nat) : List (Act α) → List Log.Event → Prop where
  | begun {acts} {stage : Stage φ} (h : Begun acts stage) : Latest c n acts stage.events
  | decided {acts outcome events} (h : c.Reports n acts (some outcome) events) :
      Latest c n (acts ++ [.settled outcome]) events

/-! ## What is written, told by the acts alone -/

/-- The entries of attempt `n` that report the given events. -/
def entriesAt (c : Config σ φ α) (parent : List Log.Span) (n : Nat) (events : List Log.Event) :
    List Log.Entry :=
  events.map fun event => ⟨event, c.spansAt parent n⟩

/-- What a run writes with the given acts: `n` is the number of the attempt that polled its check
last before them, and `f` the failure that it has come to, if it has come to one. -/
def chronicle (c : Config σ φ α) (parent : List Log.Span) :
    Nat → Failure → List (Act α) → List Log.Entry
  | _, _, [] => []
  | n, f, a :: as =>
    let n := n + a.checks.toNat
    let f := a.failure?.getD f
    c.entriesAt parent n (c.writes (.reported n f) a) ++ c.chronicle parent n f as

end Config

/-- The failure that is to be shown and judged. -/
def Phase.cause? : Phase φ α → Option Failure
  | failed _ f | reported _ f => some f
  | _ => none

/-- A phase in which attempt `n` has polled its check last and has come to the failure `f`, unless
it has come to none. -/
structure Phase.Recalls (p : Phase φ α) (n : Nat) (f : Failure) : Prop where
  next : p.next = n + 1
  cause : ∀ g, p.cause? = some g → g = f

namespace Config

variable {c : Config σ φ α} {parent : List Log.Span} {p q : Phase φ α} {m : Moment σ α}
  {ms : List (Moment σ α)} {notes : List (Note α)} {n : Nat} {f g : Failure}
  {acts more : List (Act α)}

theorem cause?_afterFailure (c : Config σ φ α) (n : Nat) (f : Failure) :
    (c.afterFailure n f).cause? = some f := by
  rcases c.afterFailure_cases n f with hf | hf <;> rw [hf] <;> rfl

theorem Rule.cause?_eq (h : c.Rule p m q) (hp : p.Recalls n f) :
    ∀ g, q.cause? = some g → g = m.act.failure?.getD f := by
  cases h with
  | @refuse k _ _ payload _ =>
      rw [c.cause?_afterFailure]
      rintro g ⟨⟩
      rfl
  | @finish k _ _ _ reply _ =>
      rcases reply with (failure | value) | payload
      · rw [afterEnd, c.cause?_afterFailure]
        rintro g ⟨⟩
        rfl
      · rintro g ⟨⟩
      · rw [afterEnd, c.cause?_afterFailure]
        rintro g ⟨⟩
        rfl
  | notify _ _ => exact hp.cause
  | _ => rintro g ⟨⟩

/-- The acts tell what a run writes with its next act. -/
theorem Rule.recalls (h : c.Rule p m q) (hp : p.Recalls n f) :
    p.number = n + m.act.checks.toNat ∧
      c.writes p m.act =
        c.writes (.reported (n + m.act.checks.toNat) (m.act.failure?.getD f)) m.act ∧
      q.Recalls (n + m.act.checks.toNat) (m.act.failure?.getD f) := by
  have hnext := h.next_eq.1
  have hlast := h.number_eq
  rw [hp.next] at hnext
  have hnumber : p.number = n + m.act.checks.toNat := by omega
  refine ⟨hnumber, ?_, by omega, h.cause?_eq hp⟩
  cases h with
  | accept _ =>
      obtain rfl := hp.cause _ rfl
      obtain rfl := hnumber
      rfl
  | @reject k _ _ failure reply _ _ =>
      obtain rfl := hp.cause _ rfl
      obtain rfl := hnumber
      rcases reply with (_ | _) | payload <;> rfl
  | @stop _ _ _ reply _ _ => rcases reply with (_ | _) | payload <;> rfl
  | @finish _ _ _ _ reply _ => rcases reply with (failure | value) | payload <;> rfl
  | @notify _ _ _ _ _ reply _ _ => cases reply <;> rfl
  | _ => rfl

theorem Noting.entries {a : Act α} (h : c.Noting parent p a notes)
    (hquiet : notes.any Note.isFarewell = false) :
    notes.filterMap Note.entry? = c.entriesAt parent p.number (c.writes p a) := by
  cases h with
  | usual a =>
      rw [List.filterMap_cons_none rfl, List.filterMap_map]
      exact congrFun List.filterMap_eq_map _
  | unheard o => cases hquiet

/-- The entries in a ledger that does not say farewell are told by its acts. -/
theorem Ledger.entries (h : c.Ledger parent p ms notes q)
    (hquiet : notes.any Note.isFarewell = false) (hp : p.Recalls n f) :
    notes.filterMap Note.entry? = c.chronicle parent n f (ms.map Moment.act) := by
  induction h generalizing n f with
  | nil => rfl
  | @cons p q r m ms notes rest hr hn _ ih =>
      obtain ⟨hnumber, hwrites, hq⟩ := hr.recalls hp
      rw [List.any_append, Bool.or_eq_false_iff] at hquiet
      rw [List.filterMap_append, hn.entries hquiet.1, ih hquiet.2 hq, List.map_cons, chronicle,
        hwrites, hnumber]

/-! ## What is written in an attempt -/

theorem chronicle_polls (c : Config σ φ α) (parent : List Log.Span) (n : Nat) (f : Failure)
    (k : Nat) (more : List (Act α)) :
    c.chronicle parent n f (List.replicate k (.polled none) ++ more) =
      c.chronicle parent n f more := by
  induction k with
  | zero => rfl
  | succ k ih =>
      rw [List.replicate_succ, List.cons_append, chronicle]
      exact ih

end Config

variable {c : Config σ φ α} {parent : List Log.Span} {n : Nat} {f g : Failure}
  {acts : List (Act α)} {events : List Log.Event}

theorem Effort.chronicle_ok {value : α} (h : Effort acts (.ok value)) (more : List (Act α)) :
    c.chronicle parent n f (acts ++ more) =
      ⟨.succeeded, c.spansAt parent n⟩ :: c.chronicle parent n f more := by
  cases h with
  | ended k =>
      rw [List.cons_append, List.append_assoc, Config.chronicle]
      exact c.chronicle_polls parent n f k _

/-- An effort that fails writes nothing, but its failure is what is written about next. -/
theorem Effort.chronicle_error (h : Effort acts (.error g)) (more : List (Act α)) :
    c.chronicle parent n f (acts ++ more) = c.chronicle parent n g more := by
  cases h with
  | refused payload => rfl
  | ended k =>
      rw [List.cons_append, List.append_assoc, Config.chronicle]
      exact c.chronicle_polls parent n f k _
  | burst k payload =>
      rw [List.cons_append, List.append_assoc, Config.chronicle]
      exact c.chronicle_polls parent n f k _

theorem Begun.chronicle {stage : Stage φ} (h : Begun acts stage) :
    c.chronicle parent n f acts = c.entriesAt parent (n + 1) stage.events := by
  cases h with
  | queued => rfl
  | underway k operation =>
      have hpolls := c.chronicle_polls parent (n + 1) f k []
      rw [List.append_nil] at hpolls
      exact congrArg (List.cons _) hpolls

namespace Config

theorem Notice.chronicle (h : c.Notice g acts) (more : List (Act α)) :
    c.chronicle parent n f (acts ++ more) =
      c.entriesAt parent n (acts.filterMap Act.alarm?) ++ c.chronicle parent n f more := by
  obtain ⟨_ | (_ | payload), -, rfl⟩ := h <;> rfl

/-- What is written in an attempt that failed ends with what is written with the verdict. -/
theorem chronicle_failed {notice last : List (Act α)} {ending : List Log.Event}
    (he : Effort acts (.error g)) (hn : c.Notice g notice) (more : List (Act α))
    (hlast : c.chronicle parent (n + 1) g (last ++ more) =
      c.entriesAt parent (n + 1) ending ++ c.chronicle parent (n + 1) g more) :
    c.chronicle parent n f (.checked (.returned false) :: (acts ++ notice ++ last) ++ more) =
      c.entriesAt parent (n + 1) (.starting :: (notice.filterMap Act.alarm? ++ ending)) ++
        c.chronicle parent (n + 1) g more := by
  have hrest : c.chronicle parent (n + 1) f (acts ++ (notice ++ (last ++ more))) =
      c.entriesAt parent (n + 1) (notice.filterMap Act.alarm? ++ ending) ++
        c.chronicle parent (n + 1) g more := by
    rw [he.chronicle_error, hn.chronicle, hlast, entriesAt, entriesAt, entriesAt, List.map_append,
      List.append_assoc]
  rw [List.cons_append, List.append_assoc, List.append_assoc, Config.chronicle]
  exact congrArg (List.cons _) hrest

/-- What is written in an attempt is what its acts report. -/
theorem Attempt.reports {o : Option (Outcome α)} (h : c.Attempt (n + 1) acts o)
    (more : List (Act α)) : ∃ events g, c.Reports (n + 1) acts o events ∧
      c.chronicle parent n f (acts ++ more) =
        c.entriesAt parent (n + 1) events ++ c.chronicle parent (n + 1) g more := by
  cases h with
  | @cancelled reply hr =>
      rcases reply with (_ | _) | payload
      · exact absurd rfl hr
      · exact ⟨_, f, .gone, rfl⟩
      · exact ⟨_, f, .checkPanicked payload, rfl⟩
  | succeeded he =>
      refine ⟨_, f, .succeeded he, ?_⟩
      rw [List.cons_append, Config.chronicle]
      exact congrArg (List.cons _) (he.chronicle_ok more)
  | @rejected acts g notice reply he hn hr =>
      rcases reply with (_ | _) | payload
      · exact ⟨_, g, .rejected he hn, chronicle_failed he hn more rfl⟩
      · exact absurd rfl hr
      · exact ⟨_, g, .classifierPanicked payload he hn, chronicle_failed he hn more rfl⟩
  | @retried acts g notice he hn => exact ⟨_, g, .retried he hn, chronicle_failed he hn more rfl⟩

/-- What is written in the attempt that decides a run is the last that is written. -/
theorem Attempt.latest {outcome : Outcome α} (h : c.Attempt (n + 1) acts (some outcome)) :
    ∃ events, c.Latest (n + 1) (acts ++ [.settled outcome]) events ∧
      c.chronicle parent n f (acts ++ [.settled outcome]) = c.entriesAt parent (n + 1) events := by
  obtain ⟨events, g, hreports, hwritten⟩ := h.reports [.settled outcome]
  exact ⟨events, .decided hreports, hwritten.trans (List.append_nil _)⟩

/-! ## What is written in a run -/

/-- The entries of attempts that are numbered from `n` on, of which each has written the given
events. -/
def journal (c : Config σ φ α) (parent : List Log.Span) (n : Nat)
    (reports : List (List Log.Event)) : List Log.Entry :=
  (reports.zipIdx n).flatMap fun (events, i) => c.entriesAt parent i events

theorem journal_cons (c : Config σ φ α) (parent : List Log.Span) (n : Nat)
    (events : List Log.Event) (reports : List (List Log.Event)) :
    c.journal parent n (events :: reports) =
      c.entriesAt parent n events ++ c.journal parent (n + 1) reports := rfl

theorem journal_append_singleton (c : Config σ φ α) (parent : List Log.Span) (n : Nat)
    (reports : List (List Log.Event)) (events : List Log.Event) :
    c.journal parent n (reports ++ [events]) =
      c.journal parent n reports ++ c.entriesAt parent (n + reports.length) events := by
  rw [journal, List.zipIdx_append, List.flatMap_append]
  exact congrArg (_ ++ ·) (List.append_nil _)

/-- Attempts that were each followed by another have written what their acts report. -/
theorem chronicle_tries (parent : List Log.Span) {tries : List (List (Act α))}
    (h : ∀ i (hi : i < tries.length), c.Attempt (n + i + 1) tries[i] none)
    (more : List (Act α)) :
    ∃ (attempts : List (List (Act α) × List Log.Event)) (g : _), attempts.map Prod.fst = tries ∧
      (∀ i (hi : i < attempts.length),
        c.Reports (n + i + 1) attempts[i].1 none attempts[i].2) ∧
      c.chronicle parent n f (tries.flatten ++ more) =
        c.journal parent (n + 1) (attempts.map Prod.snd) ++
          c.chronicle parent (n + tries.length) g more := by
  induction tries generalizing n f with
  | nil => exact ⟨[], f, rfl, fun i hi => absurd hi (Nat.not_lt_zero i), rfl⟩
  | cons acts tries ih =>
      have hattempt : c.Attempt (n + 1) acts none := h 0 (Nat.succ_pos _)
      have hlater : ∀ i (hi : i < tries.length), c.Attempt (n + 1 + i + 1) tries[i] none := by
        intro i hi
        rw [Nat.add_right_comm n 1 i]
        exact h (i + 1) (Nat.succ_lt_succ hi)
      obtain ⟨events, g, hfirst, hwritten⟩ := hattempt.reports (tries.flatten ++ more)
      obtain ⟨attempts, g', rfl, hreports, hrest⟩ := ih hlater
      refine ⟨(acts, events) :: attempts, g', rfl, ?_, ?_⟩
      · intro i hi
        cases i with
        | zero => exact hfirst
        | succ i =>
            have hi' := hreports i (Nat.lt_of_succ_lt_succ hi)
            rwa [Nat.add_right_comm n 1 i] at hi'
      · have hcount : n + 1 + (attempts.map Prod.fst).length =
            n + (acts :: attempts.map Prod.fst).length := by
          rw [List.length_cons]
          omega
        rw [List.flatten_cons, List.append_assoc, hwritten, hrest, hcount, List.map_cons,
          journal_cons, List.append_assoc]

end Config

/-! ## One failure and one wait for each request -/

/-- An entry that an attempt failed and another one is made. -/
def Log.Event.isFailure : Log.Event → Bool
  | failed _ _ _ => true
  | _ => false

/-- An entry for who watches the run: that it waits. -/
def Log.Event.isInfo (event : Log.Event) : Bool := event.level = .info

theorem Effort.failures {result : Except Failure α} (h : Effort acts result) :
    acts.filterMap Act.failure? = match result with
      | .ok _ => []
      | .error f => [f] := by
  have hpolls : ∀ k, (List.replicate k (.polled none : Act α)).filterMap Act.failure? = [] := by
    intro k
    rw [List.filterMap_eq_nil_iff]
    intro a ha
    rw [List.eq_of_mem_replicate ha]
    rfl
  cases h with
  | refused payload => rfl
  | ended k =>
      rw [List.filterMap_cons_none rfl, List.filterMap_append, hpolls]
      cases result <;> rfl
  | burst k payload =>
      rw [List.filterMap_cons_none rfl, List.filterMap_append, hpolls]
      rfl

namespace Config

theorem Reports.attempt {o : Option (Outcome α)} (h : c.Reports n acts o events) :
    c.Attempt n acts o := by
  cases h with
  | gone => exact .cancelled (by simp)
  | checkPanicked payload => exact .cancelled (by simp)
  | succeeded he => exact .succeeded he
  | rejected he hn => exact .rejected he hn (by simp)
  | classifierPanicked payload he hn => exact .rejected he hn (by simp)
  | retried he hn => exact .retried he hn

/-- Of a failed attempt, the last entries alone tell whether another one is made. -/
theorem Notice.filter_reports (h : c.Notice f acts) (ending : List Log.Event) :
    let events := .starting :: (acts.filterMap Act.alarm? ++ ending)
    events.filter Log.Event.isFailure = ending.filter Log.Event.isFailure ∧
      events.filter Log.Event.isInfo = ending.filter Log.Event.isInfo := by
  obtain ⟨_ | (_ | payload), -, rfl⟩ := h <;> exact ⟨rfl, rfl⟩

theorem Notice.failures (h : c.Notice f acts) : acts.filterMap Act.failure? = [] := by
  obtain ⟨_ | (_ | payload), -, rfl⟩ := h <;> rfl

/-- An attempt that is followed by another came to one failure and asked for one wait, and both were
written down. -/
theorem Reports.retries (h : c.Reports n acts none events) : ∃ f d,
    acts.filterMap Act.failure? = [f] ∧ acts.filterMap Act.request? = [d] ∧
      events.filter Log.Event.isFailure = [.failed c.session c.action f.text] ∧
        events.filter Log.Event.isInfo = [.waiting c.session c.action d] := by
  have hrequest := h.attempt.requests.1
  cases h with
  | @retried acts f notice he hn =>
      refine ⟨f, _, ?_, hrequest, (hn.filter_reports _).1, (hn.filter_reports _).2⟩
      rw [List.filterMap_cons_none rfl, List.filterMap_append, List.filterMap_append,
        he.failures, hn.failures]
      rfl

theorem Reports.decided {outcome : Outcome α} (h : c.Reports n acts (some outcome) events) :
    events.filter Log.Event.isFailure = [] ∧ events.filter Log.Event.isInfo = [] := by
  cases h with
  | rejected _ hn => exact hn.filter_reports _
  | classifierPanicked payload _ hn => exact hn.filter_reports _
  | _ => exact ⟨rfl, rfl⟩

theorem filter_entriesAt (p : Log.Event → Bool) (c : Config σ φ α) (parent : List Log.Span)
    (n : Nat) (events : List Log.Event) :
    (c.entriesAt parent n events).filter (fun entry => p entry.event) =
      c.entriesAt parent n (events.filter p) := List.filter_map

theorem filter_journal_cons (p : Log.Event → Bool) (c : Config σ φ α) (parent : List Log.Span)
    (n : Nat) (events : List Log.Event) (reports : List (List Log.Event)) :
    (c.journal parent n (events :: reports)).filter (fun entry => p entry.event) =
      c.entriesAt parent n (events.filter p) ++
        (c.journal parent (n + 1) reports).filter fun entry => p entry.event := by
  rw [journal_cons, List.filter_append, filter_entriesAt]

/-- Of the attempts that were each followed by another, the failures and the waits were written down
in their order, each in its attempt. -/
theorem journal_retries (parent : List Log.Span)
    {attempts : List (List (Act α) × List Log.Event)}
    (h : ∀ i (hi : i < attempts.length), c.Reports (n + i) attempts[i].1 none attempts[i].2) :
    let acts := (attempts.map Prod.fst).flatten
    let entries := c.journal parent n (attempts.map Prod.snd)
    ((acts.filterMap Act.failure?).length = attempts.length ∧
        (acts.filterMap Act.request?).length = attempts.length) ∧
      entries.filter (fun entry => entry.event.isFailure) =
        ((acts.filterMap Act.failure?).zipIdx n).map (fun (f, i) =>
          ⟨.failed c.session c.action f.text, c.spansAt parent i⟩) ∧
      entries.filter (fun entry => entry.event.isInfo) =
        ((acts.filterMap Act.request?).zipIdx n).map fun (d, i) =>
          ⟨.waiting c.session c.action d, c.spansAt parent i⟩ := by
  induction attempts generalizing n with
  | nil => exact ⟨⟨rfl, rfl⟩, rfl, rfl⟩
  | cons attempt attempts ih =>
      have hfirst : c.Reports n attempt.1 none attempt.2 := h 0 (Nat.succ_pos _)
      have hlater : ∀ i (hi : i < attempts.length),
          c.Reports (n + 1 + i) attempts[i].1 none attempts[i].2 := by
        intro i hi
        rw [Nat.add_right_comm]
        exact h (i + 1) (Nat.succ_lt_succ hi)
      obtain ⟨⟨hfailed, hasked⟩, hfailures, hinfos⟩ := ih hlater
      obtain ⟨f, d, hf, hd, hfailure, hinfo⟩ := hfirst.retries
      simp only [List.map_cons, List.flatten_cons, List.filterMap_append, hf, hd,
        filter_journal_cons, hfailure, hinfo, hfailures, hinfos, List.length_append, hfailed,
        hasked, List.length_cons, List.zipIdx_append]
      refine ⟨⟨Nat.add_comm _ _, Nat.add_comm _ _⟩, rfl, rfl⟩

theorem Latest.requests (h : c.Latest n acts events) : acts.filterMap Act.request? = [] := by
  cases h with
  | begun hb =>
      obtain ⟨rfl, -⟩ | ⟨rest, operation, rfl, hq, -⟩ := hb.quiet
      · rfl
      · exact hq.requests
  | decided hr =>
      rw [List.filterMap_append, hr.attempt.no_requests]
      rfl

theorem Latest.filter_eq_nil (h : c.Latest n acts events) :
    events.filter Log.Event.isFailure = [] ∧ events.filter Log.Event.isInfo = [] := by
  cases h with
  | @begun _ stage _ => cases stage <;> exact ⟨rfl, rfl⟩
  | decided hr => exact hr.decided

theorem filter_journal_append (p : Log.Event → Bool) (c : Config σ φ α) (parent : List Log.Span)
    (n : Nat) (reports : List (List Log.Event)) {events : List Log.Event}
    (h : events.filter p = []) :
    (c.journal parent n (reports ++ [events])).filter (fun entry => p entry.event) =
      (c.journal parent n reports).filter fun entry => p entry.event := by
  rw [journal_append_singleton, List.filter_append, filter_entriesAt, h]
  exact List.append_nil _

/-- In a whole run, there is one entry of either kind for each request, in their order. -/
theorem journal_requests (parent : List Log.Span)
    {attempts : List (List (Act α) × List Log.Event)} {more : List (Act α)}
    (h : ∀ i (hi : i < attempts.length), c.Reports (i + 1) attempts[i].1 none attempts[i].2)
    (hlast : c.Latest n more events) :
    let acts := .submitted :: ((attempts.map Prod.fst).flatten ++ more)
    let requests := acts.filterMap Act.request?
    let entries := c.journal parent 1 (attempts.map Prod.snd ++ [events])
    entries.filter (fun entry => entry.event.isFailure) =
        (((acts.filterMap Act.failure?).take requests.length).zipIdx 1).map (fun (f, i) =>
          ⟨.failed c.session c.action f.text, c.spansAt parent i⟩) ∧
      entries.filter (fun entry => entry.event.isInfo) = (requests.zipIdx 1).map fun (d, i) =>
        ⟨.waiting c.session c.action d, c.spansAt parent i⟩ := by
  intro acts requests entries
  obtain ⟨⟨hfailed, hasked⟩, hfailures, hinfos⟩ :=
    journal_retries parent fun i hi => Nat.add_comm i 1 ▸ h i hi
  have hrequests : requests = (attempts.map Prod.fst).flatten.filterMap Act.request? := by
    simp only [requests, acts]
    rw [List.filterMap_cons_none rfl, List.filterMap_append, hlast.requests, List.append_nil]
  have hfirst : (acts.filterMap Act.failure?).take requests.length =
      (attempts.map Prod.fst).flatten.filterMap Act.failure? := by
    rw [hrequests, hasked, ← hfailed, List.filterMap_cons_none rfl, List.filterMap_append,
      List.take_left]
  obtain ⟨hnofailure, hnoinfo⟩ := hlast.filter_eq_nil
  rw [filter_journal_append _ _ _ _ _ hnofailure, filter_journal_append _ _ _ _ _ hnoinfo, hfirst,
    hrequests]
  exact ⟨hfailures, hinfos⟩

end Config

end Reattempt
