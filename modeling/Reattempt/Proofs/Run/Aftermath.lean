import Reattempt.Proofs.Run.Tally

/-! # What may follow a cancellation

Once every check will find the client gone, no operation is called again, but that of an attempt
whose check has passed already. The operation that is under way is driven to its end, which counts
as ever; unless it decides the run, the next check does. -/

namespace Reattempt

variable {σ φ α : Type}

/-- An act that asks for another attempt. -/
def Act.asks : Act α → Bool
  | requested _ => true
  | _ => false

namespace Config

variable {c : Config σ φ α} {p q : Phase φ α} {a : Act α} {m : Moment σ α}
  {ms : List (Moment σ α)} {as bs : List (Act α)}

/-! ## After success, rejection, and a check that stops -/

theorem Path.of_success {value : α} (h : c.Path p ms q) (hq : q.AtRest)
    (ha : ms.map Moment.act = as ++ .polled (some (.returned (.ok value))) :: bs) :
    bs = [.settled (.ok value)] := by
  obtain ⟨ks, m, ns, p', q', -, -, hm, hns, -, hr, hl⟩ := h.split_act ha
  cases hr <;> cases hm
  rw [← hns]
  exact (hl.of_decided hq).1

theorem Path.of_rejection {cause : Failure} {reply : Reply Bool} (h : c.Path p ms q)
    (hq : q.AtRest) (ha : ms.map Moment.act = as ++ .classified cause reply :: bs)
    (hne : reply ≠ .returned true) :
    ∃ failure : Failure, failure.bare = cause ∧ bs = [.settled (.error (.fatal failure))] := by
  obtain ⟨ks, m, ns, p', q', -, -, hm, hns, -, hr, hl⟩ := h.split_act ha
  cases hr <;> cases hm
  · exact absurd rfl hne
  · rw [← hns]
    exact ⟨_, rfl, (hl.of_decided hq).1⟩

theorem Path.of_stop {reply : Reply Bool} (h : c.Path p ms q) (hq : q.AtRest)
    (ha : ms.map Moment.act = as ++ .checked reply :: bs) (hne : reply ≠ .returned false) :
    bs = [.settled (.error (.cancelled c.session))] := by
  obtain ⟨ks, m, ns, p', q', -, -, hm, hns, -, hr, hl⟩ := h.split_act ha
  cases hr <;> cases hm
  · exact absurd rfl hne
  · rw [← hns]
    exact (hl.of_decided hq).1

/-- What decided a run: a check that stopped it, a success, or a rejected failure. -/
inductive Decides (c : Config σ φ α) (acts : List (Act α)) : Outcome α → Prop where
  | stop {reply} (h : .checked reply ∈ acts) (hne : reply ≠ .returned false) :
      Decides c acts (.error (.cancelled c.session))
  | success {value} (h : .polled (some (.returned (.ok value))) ∈ acts) :
      Decides c acts (.ok value)
  | rejection {failure : Failure} {reply} (h : .classified failure.bare reply ∈ acts)
      (hne : reply ≠ .returned true) : Decides c acts (.error (.fatal failure))

theorem Decides.mono {outcome : Outcome α} (h : c.Decides as outcome) (hs : as ⊆ bs) :
    c.Decides bs outcome := by
  cases h with
  | stop h hne => exact .stop (hs h) hne
  | success h => exact .success (hs h)
  | rejection h hne => exact .rejection (hs h) hne

theorem Edge.decides {outcome : Outcome α} (h : c.Edge p a q) (hq : q.verdict? = some outcome) :
    p.verdict? = some outcome ∨ c.Decides [a] outcome := by
  cases h with
  | stop hne =>
      cases hq
      exact .inr (.stop (List.mem_singleton_self _) hne)
  | succeed =>
      cases hq
      exact .inr (.success (List.mem_singleton_self _))
  | reject hne =>
      cases hq
      exact .inr (.rejection (List.mem_singleton_self _) hne)
  | settle => exact .inl hq
  | _ => cases hq

theorem Path.decides {outcome : Outcome α} (h : c.Path p ms q) (hq : q.verdict? = some outcome) :
    p.verdict? = some outcome ∨ c.Decides (ms.map Moment.act) outcome := by
  induction h with
  | nil => exact .inl hq
  | @cons p q' r m ms hr _ ih =>
      rcases ih hq with hq' | hd
      · rcases hr.edge.decides hq' with hp | hd
        · exact .inl hp
        · exact .inr (hd.mono (by simp))
      · exact .inr (hd.mono (by simp))

/-- A run settles with nothing but what decided it. -/
theorem Path.decides_settled {outcome : Outcome α} (h : c.Path .unstarted ms q)
    (hs : .settled outcome ∈ ms.map Moment.act) : c.Decides (ms.map Moment.act) outcome := by
  obtain ⟨as, bs, ha⟩ := List.append_of_mem hs
  obtain ⟨ks, m, ns, p', q', rfl, -, hm, -, hp, hr, -⟩ := h.split_act ha
  cases hr <;> cases hm
  rcases hp.decides rfl with hu | hd
  · cases hu
  · exact hd.mono (by simp)

/-! ## When no check passes any more -/

theorem Edge.not_cleared (h : c.Edge p a q) (ha : a ≠ .checked (.returned false)) (n : Nat) :
    q ≠ .cleared n := by
  rintro rfl
  cases h
  exact ha rfl

/-- A check has passed right before an operation is called. -/
theorem Path.of_cleared_end {n : Nat} (h : c.Path p ms (.cleared n)) :
    ms = [] ∧ p = .cleared n ∨
      ∃ front m, ms = front ++ [m] ∧ m.act = .checked (.returned false) := by
  obtain rfl | ⟨front, m, rfl⟩ := List.eq_nil_or_concat ms
  · cases h
    exact .inl ⟨rfl, rfl⟩
  · rw [List.concat_eq_append] at h ⊢
    obtain ⟨p', q', -, hr, ht⟩ := h.split_cons
    cases ht
    refine .inr ⟨front, m, rfl, Classical.not_not.mp fun hm => ?_⟩
    exact hr.edge.not_cleared hm n rfl

end Config

/-- The requests that a run can still make if no check passes any more. -/
def Phase.requestsLeft : Phase φ α → Nat
  | cleared _ | running _ _ | failed _ _ | reported _ _ | accepted _ => 1
  | _ => 0

namespace Config

variable {c : Config σ φ α} {p q : Phase φ α} {a : Act α} {ms ns : List (Moment σ α)}

theorem Edge.requestsLeft_le (h : c.Edge p a q) (ha : a ≠ .checked (.returned false)) :
    a.asks.toNat + q.requestsLeft ≤ p.requestsLeft := by
  cases h with
  | pass => exact absurd rfl ha
  | _ => simp [Act.asks, Phase.requestsLeft]

/-- As long as no check passes, one request is made at most. -/
theorem Path.asks_le (h : c.Path p ms q) (hms : .checked (.returned false) ∉ ms.map Moment.act) :
    (ms.map Moment.act).countP Act.asks + q.requestsLeft ≤ p.requestsLeft := by
  induction h with
  | nil => simp
  | @cons p q' r m ms hr _ ih =>
      simp only [List.map_cons, List.mem_cons, not_or] at hms
      have hm := hr.edge.requestsLeft_le (Ne.symm hms.1)
      have hle := ih hms.2
      rw [List.map_cons, Act.countP_cons]
      omega

/-- What was done before and after a cancellation. -/
structure Aftermath (c : Config σ φ α) (before later : List (Act α)) : Prop where
  /-- No call of the operation starts, but that of an attempt whose check has just passed. -/
  no_call : ∀ front reply rest, later = front ++ .called reply :: rest →
    front = [] ∧ ∃ past, before = past ++ [.checked (.returned false)]
  /-- That one does start. -/
  cleared : ∀ past, before = past ++ [.checked (.returned false)] →
    ∃ reply rest, later = .called reply :: rest
  /-- An operation that is under way, or is called yet, is polled until it has come to its end. -/
  driven : ∀ front rest, later = front ++ rest →
    (before ++ front).countP Act.opens = (before ++ front).countP Act.closes + 1 →
      ∃ k, rest = List.replicate k (.polled none) ∨
        ∃ reply back, rest = List.replicate k (.polled none) ++ .polled (some reply) :: back
  /-- If it succeeds, the run settles with its value. -/
  succeeded : ∀ front value rest,
    before ++ later = front ++ .polled (some (.returned (.ok value))) :: rest →
      rest = [.settled (.ok value)]
  /-- If its failure is rejected, the run settles with that. -/
  rejected : ∀ front cause reply rest, before ++ later = front ++ .classified cause reply :: rest →
    reply ≠ .returned true →
      ∃ failure : Failure, failure.bare = cause ∧ rest = [.settled (.error (.fatal failure))]
  /-- One more attempt is asked for at most. -/
  one_request : later.countP Act.asks ≤ 1
  /-- A check stops the run, without another act in between. -/
  stopped : ∀ front reply rest, later = front ++ .checked reply :: rest →
    reply = .returned true ∧ rest = [.settled (.error (.cancelled c.session))]
  /-- Otherwise the run does not settle. -/
  settled : ∀ outcome, .settled outcome ∈ later → c.Decides (before ++ later) outcome

/-- An operation that was begun and has not come to its end is polled until it has. -/
theorem Path.driven (hb : c.Path .unstarted ms p) (hl : c.Path p ns q)
    (hopen : (ms.map Moment.act).countP Act.opens = (ms.map Moment.act).countP Act.closes + 1) :
    ∃ k, ns.map Moment.act = List.replicate k (.polled none) ∨
      ∃ reply back, ns.map Moment.act =
        List.replicate k (.polled none) ++ .polled (some reply) :: back := by
  have he := hb.open_eq
  have hone : p.open = 1 := by
    rw [show (Phase.unstarted : Phase φ α).open = 0 from rfl] at he
    omega
  obtain ⟨n, operation, rfl⟩ : ∃ n operation, p = .running n operation := by
    cases p <;> first | exact ⟨_, _, rfl⟩ | cases hone
  obtain ⟨k, next, hk, -⟩ | ⟨k, reply, ks, ls, rfl, hk, -⟩ := hl.of_running
  · exact ⟨k, .inl hk⟩
  · exact ⟨k, .inr ⟨reply, ls.map Moment.act, by simp [hk]⟩⟩

theorem Path.aftermath (hb : c.Path .unstarted ms p) (hl : c.Path p ns q) (hq : q.AtRest)
    (hc : ∀ reply, .checked reply ∈ ns.map Moment.act → reply = .returned true) :
    c.Aftermath (ms.map Moment.act) (ns.map Moment.act) := by
  have hall := hb.append hl
  have hpass : .checked (.returned false) ∉ ns.map Moment.act := by
    intro h
    cases hc _ h
  constructor
  case no_call =>
    intro front reply rest h
    obtain ⟨ks, m, ls, p', q', rfl, rfl, hm, -, hfront, hr, -⟩ := hl.split_act h
    obtain ⟨n, rfl⟩ : ∃ n, p' = .cleared n := by cases hr <;> cases hm <;> exact ⟨_, rfl⟩
    -- the check that cleared the attempt was the last act before the cancellation
    obtain ⟨rfl, rfl⟩ | ⟨ks, k, rfl, hk⟩ := hfront.of_cleared_end
    · obtain ⟨-, hu⟩ | ⟨past, k, rfl, hk⟩ := hb.of_cleared_end
      · cases hu
      · exact ⟨rfl, past.map Moment.act, by simp [hk]⟩
    · exact absurd (by simp [hk]) hpass
  case cleared =>
    intro past h
    obtain ⟨ks, m, ls, p', q', -, -, hm, hls, -, hr, ht⟩ := hb.split_act h
    obtain rfl := List.map_eq_nil_iff.mp hls
    cases ht
    obtain ⟨n, rfl⟩ : ∃ n, p = .cleared n := by
      cases hr with
      | pass _ => exact ⟨_, rfl⟩
      | stop _ hne =>
          cases hm
          exact absurd rfl hne
      | _ => cases hm
    obtain ⟨k, ks, rfl, ⟨hk, -⟩ | ⟨payload, hk, -⟩⟩ := hl.of_cleared hq
    · exact ⟨_, _, congrArg (· :: _) hk⟩
    · exact ⟨_, _, congrArg (· :: _) hk⟩
  case driven =>
    intro front rest h hopen
    obtain ⟨ks, ls, rfl, rfl, rfl⟩ := List.map_eq_append_iff.mp h
    obtain ⟨p', hfront, hrest⟩ := hl.split
    rw [← List.map_append] at hopen
    exact (hb.append hfront).driven hrest hopen
  case succeeded =>
    intro front value rest h
    rw [← List.map_append] at h
    exact hall.of_success hq h
  case rejected =>
    intro front cause reply rest h hne
    rw [← List.map_append] at h
    exact hall.of_rejection hq h hne
  case one_request =>
    have hle := hl.asks_le hpass
    have : p.requestsLeft ≤ 1 := by cases p <;> simp [Phase.requestsLeft]
    omega
  case stopped =>
    intro front reply rest h
    have hreply := hc reply (by simp [h])
    exact ⟨hreply, hl.of_stop hq h (by simp [hreply])⟩
  case settled =>
    intro outcome h
    rw [← List.map_append]
    exact hall.decides_settled (by simp at h ⊢; exact .inr h)

end Config

end Reattempt
