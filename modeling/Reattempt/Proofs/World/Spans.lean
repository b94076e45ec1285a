import Reattempt.Proofs.World.Numbers
import Reattempt.Proofs.World.Rejection

/-! # The spans of attempts

All attempts of a run lie side by side in the spans in which the run was started: no attempt lies in
another one, or in the spans of whoever polls it. -/

namespace Reattempt

variable {σ φ α : Type}

namespace Config

variable {c : Config σ φ α} {parent : List Log.Span} {p q : Phase φ α} {a : Act α}
  {m : Moment σ α} {ms : List (Moment σ α)} {notes front back : List (Note α)} {entry : Log.Entry}

/-- An entry that is written with an act stands after it, in the spans of its attempt. -/
theorem Noting.spans (h : c.Noting parent p a notes) (hn : notes = front ++ .log entry :: back) :
    front.filterMap Note.act? = [a] ∧ entry.spans = c.spansAt parent p.number := by
  obtain ⟨events, rfl⟩ := h.exists_events
  cases front with
  | nil => cases hn
  | cons note front =>
      rw [List.cons_append, List.cons.injEq] at hn
      obtain ⟨rfl, hn⟩ := hn
      obtain ⟨earlier, later, -, rfl, hlater⟩ := List.map_eq_append_iff.mp hn
      obtain ⟨event, _, -, hentry, -⟩ := List.map_eq_cons_iff.mp hlater
      cases hentry
      refine ⟨?_, rfl⟩
      simp [Note.act?, List.filterMap_map, Function.comp_def]

/-- An entry lies in the span of the attempt that polled its check last, next to the spans of all
other attempts. -/
theorem Ledger.spans (h : c.Ledger parent p ms notes q) (hn : notes = front ++ .log entry :: back) :
    ∃ n, p.number ≤ n ∧ entry.spans = c.spansAt parent n ∧
      n + 1 = p.next + (front.filterMap Note.act?).countP Act.checks := by
  induction h generalizing front with
  | nil => exact absurd hn.symm (by simp)
  | @cons p q r m ms notes rest hr hnoting ht ih =>
      have hnext := hr.next_eq.1
      have hnumber := hr.number_eq
      have hle := hr.number_le
      have hlater : ∀ late, front = notes ++ late → rest = late ++ .log entry :: back →
          ∃ n, p.number ≤ n ∧ entry.spans = c.spansAt parent n ∧
            n + 1 = p.next + (front.filterMap Note.act?).countP Act.checks := by
        rintro late rfl hrest
        obtain ⟨n, hn, hspans, hcount⟩ := ih hrest
        refine ⟨n, by omega, hspans, ?_⟩
        rw [List.filterMap_append, hnoting.acts, List.singleton_append, Act.countP_cons]
        omega
      obtain ⟨late, hfront, hrest⟩ | ⟨late, hnotes, hrest⟩ := List.append_eq_append_iff.mp hn
      · exact hlater late hfront hrest
      · cases late with
        | nil => exact hlater [] (by simp [hnotes]) hrest.symm
        | cons note late =>
            obtain ⟨rfl, -⟩ := List.cons.inj hrest
            obtain ⟨hacts, hspans⟩ := hnoting.spans hnotes
            refine ⟨p.number, Nat.le_refl _, hspans, ?_⟩
            rw [hacts, Act.countP_cons, List.countP_nil]
            omega

/-- Before its first attempt a run writes nothing. -/
theorem Ledger.spans_of_unstarted (h : c.Ledger parent .unstarted ms notes q)
    (hn : notes = front ++ .log entry :: back) :
    1 ≤ (front.filterMap Note.act?).countP Act.checks ∧
      entry.spans = c.spansAt parent ((front.filterMap Note.act?).countP Act.checks) := by
  cases h with
  | nil => exact absurd hn.symm (by simp)
  | cons hr hnoting ht =>
      cases hr with
      | submit s =>
          cases hnoting with
          | usual =>
              cases front with
              | nil => cases hn
              | cons note front =>
                  obtain ⟨hnote, hrest⟩ := List.cons.inj hn
                  obtain ⟨n, hle, hspans, hcount⟩ := ht.spans hrest
                  subst hnote
                  simp only [Phase.number, Phase.next] at hle hcount
                  obtain rfl : n = (front.filterMap Note.act?).countP Act.checks := by omega
                  exact ⟨hle, hspans⟩

end Config

namespace World

/-- A move that is made where the given spans are current. Only polls are made in spans: a run that
is started knows its own. -/
def performIn (w : World σ φ α) (around : List Log.Span) :
    Move σ φ α → List (Sight φ α) × World σ φ α
  | .poll place fate =>
    match w.held[place]? with
    | none => ([], w)
    | some t =>
      let told := (Roster.drive t).run around w.roster
      let (seen, after) :=
        (⟨told.state, w.held.eraseIdx place⟩ : World σ φ α).afterPoll fate told.value
      (told.notes.map .line ++ seen, after)
  | m => w.perform m

def playIn (w : World σ φ α) : List (List Log.Span × Move σ φ α) → List (Sight φ α) × World σ φ α
  | [] => ([], w)
  | (around, m) :: ms =>
    let (seen, after) := w.performIn around m
    let (rest, last) := after.playIn ms
    (seen ++ rest, last)

theorem performIn_eq (w : World σ φ α) (around : List Log.Span) (m : Move σ φ α) :
    w.performIn around m = w.perform m := by
  cases m with
  | poll place fate =>
      cases hheld : w.held[place]? with
      | none => simp only [performIn, perform, hheld]
      | some t => simp only [performIn, perform, hheld, Roster.drive_spans _ t around]
  | _ => rfl

theorem playIn_eq (w : World σ φ α) (ms : List (List Log.Span × Move σ φ α)) :
    w.playIn ms = w.play (ms.map Prod.snd) := by
  induction ms generalizing w with
  | nil => rfl
  | cons m ms ih =>
      obtain ⟨around, m⟩ := m
      rw [List.map_cons, play_cons, playIn, performIn_eq]
      simp only [ih]

/-- Whatever spans are current where runs are polled, every entry of a run lies in the spans in
which the run was started and in one more, that of the attempt whose check was polled last before
it. It tells session, action and number of the attempt, as long as that is a word. Only the move
that starts the run says which spans those are. -/
theorem sibling_spans (env : σ) (ms : List (List Log.Span × Move σ φ α)) (r : Nat)
    (c : Config σ φ α) (parent : List Log.Span)
    (hr : (ms.filterMap fun m => m.2.origin?)[r]? = some (c, parent)) (front back : List (Note α))
    (entry : Log.Entry)
    (hn : notesOf r ((World.init env).playIn ms).1 = front ++ .log entry :: back) :
    let n := (front.filterMap Note.act?).countP Act.checks
    1 ≤ n ∧ entry.spans = parent ++ [.attempt c.session c.action (.ofNat n)] ∧
      (n < 2 ^ 32 → ∃ span : Log.Span, entry.spans = parent ++ [span] ∧ span.name = "retry" ∧
        span.fields = [("session_id", .text c.session), ("action", .text c.action),
          ("attempt", .number n)]) := by
  intro n
  rw [playIn_eq] at hn
  obtain ⟨run, hrun, horigin⟩ : ∃ run : Run σ φ α,
      ((World.init env).play (ms.map Prod.snd)).2.roster.runs[r]? = some run ∧
        run.origin = (c, parent) := by
    have horigins := (balanced_init env).origins_play (ms.map Prod.snd)
    rw [List.filterMap_map] at horigins
    have hknown : ((World.init env).play (ms.map Prod.snd)).2.origins[r]? = some (c, parent) := by
      rw [horigins]
      exact hr
    rwa [origins, List.getElem?_map, Option.map_eq_some_iff] at hknown
  cases horigin
  obtain ⟨q, hl, -⟩ := exists_ledger env (ms.map Prod.snd) hrun
  obtain ⟨hpos, hspans⟩ := hl.spans_of_unstarted hn
  refine ⟨hpos, hspans, fun hlt => ⟨_, hspans, rfl, ?_⟩⟩
  rw [Log.Span.fields, UInt32.toNat_ofNat', Nat.mod_eq_of_lt hlt]

/-- A run that is started in a span of its caller. Its first attempt is polled by a worker, and its
second one from within the first. -/
def relayedMoves : List (List Log.Span × Move Nat Nat Unit) :=
  [([], .launch overloaded [.caller "request" []] .kept),
    ([.caller "worker" []], .poll 0 .kept),
    ([.caller "request" [], .attempt "s-1" "fetch" 1], .poll 0 .kept)]

/-- The last entry of the run, in its second attempt, lies in the span of its caller and in one
more. -/
theorem sibling_spans_relayed :
    ∃ entry, .log entry ∈ notesOf 0 ((World.init 0).playIn relayedMoves).1 ∧
      entry.event.level = .error ∧ ∃ span : Log.Span, entry.spans = [.caller "request" [], span] ∧
        span.fields =
          [("session_id", .text "s-1"), ("action", .text "fetch"), ("attempt", .number 2)] := by
  have hr : (relayedMoves.filterMap fun m => m.2.origin?)[0]? =
      some (overloaded, [.caller "request" []]) := rfl
  let notes := notesOf 0 ((World.init 0).playIn relayedMoves).1
  have hn : notes = notes.take 14 ++ .log ⟨.permanentlyFailed "s-1" "fetch"
      "asynchronous completion failed: panicked: denied",
      [.caller "request" [], .attempt "s-1" "fetch" 2]⟩ :: notes.drop 15 := rfl
  have hcount : ((notes.take 14).filterMap Note.act?).countP Act.checks = 2 := rfl
  obtain ⟨-, -, hspan⟩ := sibling_spans 0 relayedMoves 0 _ _ hr _ _ _ hn
  obtain ⟨span, hspans, -, hfields⟩ := hspan (by rw [hcount]; decide)
  rw [hcount] at hfields
  refine ⟨_, ?_, rfl, span, hspans, hfields⟩
  change _ ∈ notes
  rw [hn]
  simp

end World

end Reattempt
