import Reattempt.Proofs.Run.Farewell
import Reattempt.Proofs.World.Interruption
import Reattempt.Proofs.World.Numbers
import Reattempt.Proofs.World.Rejection

/-! # Abandoned handles

Whether anybody holds the handle of a run changes nothing that the run does. If nobody does when the
run settles, the last entry of its last attempt says so, and that is all. -/

namespace Reattempt

variable {σ φ α β : Type}

/-- A move that does nothing but change who observes a run. -/
def Move.isObserving : Move σ φ α → Bool
  | share _ => true
  | release _ => true
  | _ => false

def Sight.isFarewell : Sight φ α → Bool
  | line l => l.note.isFarewell
  | dropped _ => false

theorem Custody.told_of_ne_nil {r : Nat} {held drops : List (Ticket φ)} {settled : List (Outcome α)}
    {told : Option (Outcome α)} (h : Custody r held drops settled told) (hs : settled ≠ []) :
    ∃ outcome, told = some outcome := by
  cases h with
  | consumed outcome _ => exact ⟨outcome, rfl⟩
  | _ => exact absurd rfl hs

theorem Custody.unsettled_of_interrupted {r : Nat} {held drops : List (Ticket φ)}
    {settled : List (Outcome α)} {told : Option (Outcome α)} (h : Custody r held drops settled told)
    (ht : told = some (.error .interrupted)) : settled = [] := by
  cases h with
  | consumed outcome ho => exact absurd (Option.some.inj ht) ho
  | _ => rfl

namespace World

/-- The number of those who observe a run when it settles, if it settles. -/
def audience? (w : World σ φ α) (r : Nat) : List (Move σ φ α) → Option Nat
  | [] => none
  | m :: ms =>
    if (settlementsOf r (w.perform m).1).isEmpty then (w.perform m).2.audience? r ms
    else some (w.roster.observers r)

/-- The worlds differ in nothing but in how many observe their runs. -/
structure Alike (w v : World σ φ α) : Prop where
  roster : w.roster.Alike v.roster
  held : w.held = v.held

/-- What was seen in one world differs from what was seen in the other in farewells only, and so do
the worlds after it in their observers. -/
def Matches (x y : List (Sight φ α) × World σ φ α) : Prop :=
  x.1.filter (fun sight => !sight.isFarewell) = y.1.filter (fun sight => !sight.isFarewell) ∧
    x.2.Alike y.2

variable {w v : World σ φ α} {x y z : List (Sight φ α) × World σ φ α}

theorem Matches.symm (h : Matches x y) : Matches y x :=
  ⟨h.1.symm, h.2.roster.symm, h.2.held.symm⟩

theorem Matches.trans (h : Matches x y) (k : Matches y z) : Matches x z :=
  ⟨h.1.trans k.1, h.2.roster.trans k.2.roster, h.2.held.trans k.2.held⟩

/-! ## One move -/

theorem Alike.lose (h : w.Alike v) (t : Ticket φ) : Matches (w.lose t) (v.lose t) :=
  ⟨rfl, h.roster.modifyRun t.run fun _ => rfl, h.held⟩

theorem Alike.receive (h : w.Alike v) (t : Ticket φ) (fate : Fate) :
    Matches (w.receive t fate) (v.receive t fate) := by
  cases fate with
  | kept => exact ⟨rfl, h.roster, congrArg (· ++ [t]) h.held⟩
  | _ => exact h.lose t

theorem Alike.afterPoll (h : w.Alike v) (fate : Fate) (d : Driven φ) :
    Matches (w.afterPoll fate d) (v.afterPoll fate d) := by
  cases d with
  | suspended t pause => exact h.receive t .kept
  | finished => exact ⟨rfl, h⟩
  | handedOver delay t => exact h.receive t fate

theorem Alike.afterSubmit (h : w.Alike v) (run : Nat) (fate : Fate) :
    (w.afterSubmit run fate).Alike (v.afterSubmit run fate) := by
  cases fate with
  | panicked _ => exact ⟨h.roster.modifyRun run fun _ => rfl, h.held⟩
  | _ => exact h

theorem filter_lines_farewell {lines others : List (Line α)}
    (h : Roster.SameButFarewells lines others) :
    (lines.map Sight.line : List (Sight φ α)).filter (fun sight => !sight.isFarewell) =
      (others.map Sight.line).filter fun sight => !sight.isFarewell := by
  rw [List.filter_map, List.filter_map]
  exact congrArg (List.map Sight.line) h

theorem Alike.perform (h : w.Alike v) (m : Move σ φ α) : Matches (w.perform m) (v.perform m) := by
  cases m with
  | launch config spans fate =>
      simp only [World.perform, Roster.run_launch, ← h.roster.length]
      have hadded : Alike ⟨w.roster.addRun ⟨config, spans, .waiting, 1⟩, w.held⟩
          ⟨v.roster.addRun ⟨config, spans, .waiting, 1⟩, v.held⟩ := ⟨h.roster.addRun _, h.held⟩
      obtain ⟨hseen, hafter⟩ := hadded.receive ⟨w.roster.runs.length, 1, .queued⟩ fate
      refine ⟨?_, hafter.afterSubmit _ _⟩
      rw [List.filter_append, List.filter_append, hseen]
  | poll place fate =>
      simp only [World.perform, h.held]
      cases ht : v.held[place]? with
      | none => exact ⟨rfl, h⟩
      | some t =>
          obtain ⟨hvalue, hsaid, hdriven⟩ := h.roster.drive t []
          simp only [hvalue]
          have hrest : Alike ⟨((Roster.drive t).run [] w.roster).state, v.held.eraseIdx place⟩
              ⟨((Roster.drive t).run [] v.roster).state, v.held.eraseIdx place⟩ := ⟨hdriven, rfl⟩
          obtain ⟨hseen, hafter⟩ := hrest.afterPoll fate ((Roster.drive t).run [] v.roster).value
          refine ⟨?_, hafter⟩
          rw [List.filter_append, List.filter_append, hseen, filter_lines_farewell hsaid]
  | discard place =>
      simp only [World.perform, h.held]
      cases v.held[place]? with
      | none => exact ⟨rfl, h⟩
      | some t =>
          have hrest : Alike ⟨w.roster, v.held.eraseIdx place⟩
              ⟨v.roster, v.held.eraseIdx place⟩ := ⟨h.roster, rfl⟩
          exact hrest.lose t
  | share run =>
      exact ⟨rfl, ((h.roster.observed run (· + 1)).symm.observed run (· + 1)).symm, h.held⟩
  | release run =>
      exact ⟨rfl, ((h.roster.observed run (· - 1)).symm.observed run (· - 1)).symm, h.held⟩
  | outside effect =>
      exact ⟨rfl, ⟨congrArg effect h.roster.env, h.roster.runs⟩, h.held⟩

/-- Nothing is seen of who observes a run. -/
theorem Alike.observing (h : w.Alike v) {m : Move σ φ α} (hm : m.isObserving) :
    (w.perform m).1 = [] ∧ (w.perform m).2.Alike v := by
  cases m with
  | share run => exact ⟨rfl, h.roster.observed run (· + 1), h.held⟩
  | release run => exact ⟨rfl, h.roster.observed run (· - 1), h.held⟩
  | _ => cases hm

/-! ## A play -/

/-- A play is like the one in which handles are neither shared nor let go. -/
theorem Alike.play (h : w.Alike v) (ms : List (Move σ φ α)) :
    Matches (w.play ms) (v.play (ms.filter fun m => !m.isObserving)) := by
  induction ms generalizing w v with
  | nil => exact ⟨rfl, h⟩
  | cons m ms ih =>
      by_cases hm : m.isObserving
      · obtain ⟨hseen, hafter⟩ := h.observing hm
        rw [List.filter_cons_of_neg (by simp [hm]), play_cons, hseen]
        exact ih hafter
      · obtain ⟨hseen, hafter⟩ := h.perform m
        obtain ⟨hrest, hlast⟩ := ih hafter
        rw [List.filter_cons_of_pos (by simp [hm]), play_cons, play_cons]
        refine ⟨?_, hlast⟩
        rw [List.filter_append, List.filter_append, hseen, hrest]

theorem matches_play (env : σ) {ms ms' : List (Move σ φ α)}
    (h : ms.filter (fun m => !m.isObserving) = ms'.filter fun m => !m.isObserving) :
    Matches ((World.init env).play ms) ((World.init env).play ms') := by
  have hinit : (World.init env : World σ φ α).Alike (World.init env) := ⟨⟨rfl, rfl⟩, rfl⟩
  have hms := hinit.play ms
  rw [h] at hms
  exact hms.trans (hinit.play ms').symm

theorem Matches.notes (h : Matches x y) (r : Nat) :
    (notesOf r x.1).filter (fun note => !note.isFarewell) =
      (notesOf r y.1).filter fun note => !note.isFarewell := by
  have hseen : ∀ seen : List (Sight φ α),
      (notesOf r seen).filter (fun note => !note.isFarewell) =
        notesOf r (seen.filter fun sight => !sight.isFarewell) := by
    intro seen
    rw [notesOf, notesOf, List.filter_filterMap, List.filterMap_filter]
    refine List.filterMap_congr fun sight _ => ?_
    cases sight with
    | line l =>
        by_cases hr : l.run = r <;> cases hf : l.note.isFarewell <;>
          simp [hr, hf, Sight.isFarewell]
    | dropped t => rfl
  rw [hseen, hseen, h.1]

/-! ## Who is there when a run settles -/

variable {env : σ} {ms : List (Move σ φ α)} {r : Nat}

theorem any_farewell_perform (env : σ) (ms : List (Move σ φ α)) (m : Move σ φ α) (r : Nat) :
    (notesOf r (((World.init env).play ms).2.perform m).1).any Note.isFarewell =
      (!(settlementsOf r (((World.init env).play ms).2.perform m).1).isEmpty &&
        decide (((World.init env).play ms).2.roster.observers r = 0)) := by
  rw [settlementsOf, actsOf]
  cases (balanced env ms).concern m r with
  | quiet _ notes _ => rw [notes]; rfl
  | start _ _ _ notes => rw [notes]; rfl
  | drive _ hrun _ ticket _ notes =>
      rw [notes]
      exact Roster.any_farewell_drive hrun ticket []

/-- A run that has settled is over. -/
theorem told_of_settlements (h : settlementsOf r ((World.init env).play ms).1 ≠ []) :
    ∃ outcome, ((World.init env).play ms).2.roster.outcome? r = some outcome := by
  have hr : r < ((World.init env).play ms).2.roster.runs.length := by
    by_contra hnone
    have ha := (balanced env ms).account r
    rw [List.getElem?_eq_none (Nat.le_of_not_lt hnone)] at ha
    rw [settlementsOf, (balanced env ms).acts r, ha.of_none.1] at h
    exact h rfl
  exact (custody env ms hr).told_of_ne_nil h

/-- A run says farewell if it settles where nobody observes it. -/
theorem any_farewell_play (env : σ) (before ms : List (Move σ φ α)) (r : Nat) :
    let w := ((World.init env).play before).2
    (notesOf r (w.play ms).1).any Note.isFarewell = decide (w.audience? r ms = some 0) := by
  intro w
  induction ms generalizing before with
  | nil => rfl
  | cons m ms ih =>
      have hm := any_farewell_perform env before m r
      have hrest := ih (before ++ [m])
      have hnext : ((World.init env).play (before ++ [m])).2 = (w.perform m).2 := by
        rw [play_append, play_singleton]
      rw [hnext] at hrest
      rw [play_cons, notesOf_append, List.any_append, hm, audience?]
      cases hs : (settlementsOf r (w.perform m).1).isEmpty with
      | true => simpa [w, hs] using hrest
      | false =>
          -- nothing is seen of a run that has settled
          have hdone : notesOf r ((w.perform m).2.play ms).1 = [] := by
            have hsettled : settlementsOf r ((World.init env).play (before ++ [m])).1 ≠ [] := by
              rw [play_append, settlementsOf_append, play_singleton]
              exact List.append_ne_nil_of_right_ne_nil _ fun hnil => by simp [w, hnil] at hs
            obtain ⟨outcome, htold⟩ := told_of_settlements hsettled
            have hsame := notes_play_of_told htold ms
            rw [play_append, notesOf_append, hnext] at hsame
            exact List.append_right_eq_self.mp hsame
          simp [w, hdone]

theorem audience?_eq_none (w : World σ φ α) (r : Nat) (ms : List (Move σ φ α)) :
    w.audience? r ms = none ↔ settlementsOf r (w.play ms).1 = [] := by
  induction ms generalizing w with
  | nil => exact ⟨fun _ => rfl, fun _ => rfl⟩
  | cons m ms ih =>
      rw [play_cons, settlementsOf_append, audience?]
      cases settlementsOf r (w.perform m).1 with
      | nil => exact ih _
      | cons outcome outcomes => exact ⟨nofun, nofun⟩

/-- What is noted of a run, and its farewell if nobody observes it when it settles. -/
theorem notes_eq (env : σ) (ms : List (Move σ φ α)) {r : Nat} {run : Run σ φ α}
    (hr : ((World.init env).play ms).2.roster.runs[r]? = some run) :
    let seen := ((World.init env).play ms).1
    notesOf r seen = (notesOf r seen).filter (fun note => !note.isFarewell) ++
      if (World.init env).audience? r ms = some 0 then
        [.log ⟨.handleDropped, run.path (.ofNat ((actsOf r seen).countP Act.checks))⟩]
      else [] := by
  intro seen
  obtain ⟨q, hl, -⟩ := exists_ledger env ms hr
  have hany : (notesOf r seen).any Note.isFarewell =
      decide ((World.init env).audience? r ms = some 0) := any_farewell_play env [] ms r
  obtain ⟨common, hcommon, hnotes⟩ := hl.farewell
  have hkept : common.filter (fun note => !note.isFarewell) = common := by
    rw [List.filter_eq_self]
    intro note hnote
    simpa using List.any_eq_false.mp hcommon note hnote
  obtain hnotes | ⟨n, o, rfl, hnotes⟩ := hnotes
  · rw [hnotes, hcommon] at hany
    rw [if_neg (by simpa using hany.symm), hnotes, hkept, List.append_nil]
  · have hn : n = (actsOf r seen).countP Act.checks := by
      have hnext := hl.path.next_eq
      rw [← (balanced env ms).acts r, Phase.next, Phase.next] at hnext
      change n + 1 = 1 + (actsOf r seen).countP Act.checks at hnext
      omega
    have hlast : Note.isFarewell
        (.log ⟨.handleDropped, run.config.spansAt run.parent n⟩ : Note α) = true := rfl
    rw [hnotes, List.any_append, hcommon, List.any_cons, hlast] at hany
    rw [if_pos (by simpa using hany.symm), ← hn, hnotes, List.filter_append, hkept,
      List.filter_cons_of_neg (by simp [hlast]), List.filter_nil, List.append_nil]
    rfl

/-! ## Two plays that differ in who observes the runs -/

theorem filterMap_act?_filter (notes : List (Note α)) :
    (notes.filter fun note => !note.isFarewell).filterMap Note.act? =
      notes.filterMap Note.act? := by
  rw [List.filterMap_filter]
  refine List.filterMap_congr fun note _ => ?_
  cases note with
  | act a => rfl
  | log entry => cases Note.isFarewell (.log entry : Note α) <;> rfl

theorem Matches.acts (h : Matches x y) (r : Nat) : actsOf r x.1 = actsOf r y.1 := by
  rw [actsOf, actsOf, ← filterMap_act?_filter, h.notes, filterMap_act?_filter]

/-- Two plays that differ in nothing but when handles are shared and let go, and by whom, show the
same but for farewells. In both, the runs make the same acts in the same order, leave the same work,
and are told of in the same way. A run that has not settled, or was interrupted, has written the
same. To a run that has settled, as long as anybody observed it then, nothing is added; and if
nobody did, one entry is, which is the last entry of the run and in its last attempt. It does not
matter when in a poll an observer lets go. -/
theorem abandonment_invisible (env : σ) (ms ms' : List (Move σ φ α))
    (hsame : ms.filter (fun m => !m.isObserving) = ms'.filter fun m => !m.isObserving) :
    let seen := ((World.init env).play ms).1
    let seen' := ((World.init env).play ms').1
    let w := ((World.init env).play ms).2
    let w' := ((World.init env).play ms').2
    (seen.filter (fun sight => !sight.isFarewell) =
        seen'.filter (fun sight => !sight.isFarewell) ∧
      w.roster.env = w'.roster.env ∧ w.held = w'.held) ∧
      (∀ r, actsOf r seen = actsOf r seen' ∧ w.roster.outcome? r = w'.roster.outcome? r) ∧
      (∀ r run, w.roster.runs[r]? = some run →
        (settlementsOf r seen = [] → notesOf r seen = notesOf r seen') ∧
        (w.roster.outcome? r = some (.error .interrupted) → settlementsOf r seen = []) ∧
        ∀ outcome, settlementsOf r seen = [outcome] →
          ∃ n n' common entry, (World.init env).audience? r ms = some n ∧
            (World.init env).audience? r ms' = some n' ∧
            entry.event = .handleDropped ∧ entry.event.level = .debug ∧
            entry.spans = run.path (.ofNat ((actsOf r seen).countP Act.checks)) ∧
            notesOf r seen = common ++ (if n = 0 then [.log entry] else []) ∧
            notesOf r seen' = common ++ if n' = 0 then [.log entry] else []) ∧
      ∀ (β : Type) t run (first : Noted (Note α) σ β) second observed,
        w.roster.runs[t.run]? = some run →
        run.config.proceed t.attempt t.stage = first >>= second →
        (Roster.driveAround t run first second observed).run [] w.roster =
          (Roster.drive t).run [] (w.roster.removeObserver observed) := by
  intro seen seen' w w'
  have hmatch := matches_play env hsame
  have hacts : ∀ r, actsOf r seen = actsOf r seen' := hmatch.acts
  refine ⟨⟨hmatch.1, hmatch.2.roster.env, hmatch.2.held⟩,
    fun r => ⟨hacts r, hmatch.2.roster.outcome? r⟩, ?_,
    fun β t run first second observed hr hparts => Roster.run_driveAround hr hparts observed []⟩
  intro r run hr
  -- the other play knows the same run
  obtain ⟨hnone, -⟩ | ⟨_, observers, hr₁, hr'⟩ := hmatch.2.roster.lookup r
  · cases hr.symm.trans hnone
  cases hr.symm.trans hr₁
  have hnotes : notesOf r seen = _ := notes_eq env ms hr
  have hnotes' : notesOf r seen' = _ := notes_eq env ms' hr'
  rw [← hmatch.notes r, ← hmatch.acts r] at hnotes'
  have hsettled : settlementsOf r seen' = settlementsOf r seen := by
    rw [settlementsOf, settlementsOf, hacts]
  have hnone : (World.init env).audience? r ms = none ↔ settlementsOf r seen = [] :=
    audience?_eq_none _ r ms
  have hnone' : (World.init env).audience? r ms' = none ↔ settlementsOf r seen = [] :=
    hsettled ▸ audience?_eq_none _ r ms'
  refine ⟨fun hpending => ?_, fun htold => ?_, fun outcome hdone => ?_⟩
  · rw [hnotes, hnotes', hnone.mpr hpending, hnone'.mpr hpending]
    rfl
  · exact (custody env ms (List.getElem?_eq_some_iff.mp hr).1).unsettled_of_interrupted htold
  · have hne : settlementsOf r seen ≠ [] := hdone ▸ List.cons_ne_nil _ _
    obtain ⟨n, hn⟩ := Option.ne_none_iff_exists'.mp (mt hnone.mp hne)
    obtain ⟨n', hn'⟩ := Option.ne_none_iff_exists'.mp (mt hnone'.mp hne)
    rw [hn] at hnotes
    rw [hn'] at hnotes'
    simp only [Option.some.injEq] at hnotes hnotes'
    exact ⟨n, n', _, ⟨.handleDropped, _⟩, hn, hn', rfl, rfl, rfl, hnotes, hnotes'⟩

/-- The handle of a run is dropped while it waits for its second attempt. -/
def desertedMoves : List (Move Nat Nat Unit) :=
  [.launch overloaded [] .kept, .poll 0 .kept, .release 0, .poll 0 .kept]

/-- The run settles in that attempt, and says once that nobody was told. -/
theorem abandonment_invisible_deserted :
    notesOf 0 ((World.init 0).play desertedMoves).1 =
      notesOf 0 ((World.init 0).play overloadedMoves).1 ++
        [.log ⟨.handleDropped, [.attempt "s-1" "fetch" 2]⟩] := by
  have hsame : desertedMoves.filter (fun m => !m.isObserving) =
      overloadedMoves.filter fun m => !m.isObserving := rfl
  have hrun : ((World.init 0).play desertedMoves).2.roster.runs[0]? = some ⟨overloaded, [],
      .settled (.error (.fatal (.completion (.panic "denied")))), 0⟩ := rfl
  have hdone : settlementsOf 0 ((World.init 0).play desertedMoves).1 =
      [.error (.fatal (.completion (.panic "denied")))] := rfl
  have hnobody : (World.init 0).audience? 0 desertedMoves = some 0 := rfl
  have hsomebody : (World.init 0).audience? 0 overloadedMoves = some 1 := rfl
  obtain ⟨-, -, hruns, -⟩ := abandonment_invisible 0 desertedMoves overloadedMoves hsame
  obtain ⟨-, -, hsettled⟩ := hruns 0 _ hrun
  obtain ⟨n, n', common, ⟨event, spans⟩, hn, hn', rfl, -, rfl, hnotes, hnotes'⟩ :=
    hsettled _ hdone
  obtain rfl := Option.some.inj (hnobody.symm.trans hn)
  obtain rfl := Option.some.inj (hsomebody.symm.trans hn')
  rw [if_neg (by decide), List.append_nil] at hnotes'
  rw [hnotes, hnotes']
  rfl

end World

end Reattempt
