import Reattempt.Proofs.World.Ledger
import Reattempt.Proofs.World.Persistence

/-! # Attempts in their order

Every attempt begins with an entry that tells its number. Whatever other runs do, and whether or not
its work is lost at some time, a run numbers its attempts from one and asks for their waits in
turn. -/

namespace Reattempt

variable {σ φ α : Type}

/-- The number of the attempt that an entry begins, whether the attempt starts or is abandoned. -/
def Note.opening? : Note α → Option UInt32
  | log ⟨.starting, path⟩ => Log.attemptOf? path
  | log ⟨.clientGone, path⟩ => Log.attemptOf? path
  | _ => none

def Act.checks : Act α → Bool
  | checked _ => true
  | _ => false

/-- The attempt that is the next to poll its check. -/
def Phase.next : Phase φ α → Nat
  | unstarted => 1
  | waiting n => n
  | cleared n | running n _ | failed n _ | reported n _ | accepted n | decided n _
  | finished n _ => n + 1

namespace Config

variable {c : Config σ φ α} {parent : List Log.Span} {p q : Phase φ α} {a : Act α}
  {m : Moment σ α} {ms : List (Moment σ α)} {notes : List (Note α)}

theorem attemptOf?_spansAt (c : Config σ φ α) (parent : List Log.Span) (n : Nat) :
    Log.attemptOf? (c.spansAt parent n) = some (.ofNat n) := by
  simp [Log.attemptOf?, spansAt]

theorem Noting.openings (h : c.Noting parent p a notes) :
    notes.filterMap Note.opening? = if a.checks then [.ofNat p.number] else [] := by
  cases h with
  | usual a =>
      cases a with
      | checked reply =>
          rcases reply with (_ | _) | payload <;>
            simp [writes, List.filterMap_cons, Note.opening?, Act.checks, attemptOf?_spansAt]
      | polled reply => rcases reply with _ | ((f | value) | payload) <;> rfl
      | notified cause reply => cases reply <;> rfl
      | classified cause reply => rcases reply with (_ | _) | payload <;> cases p <;> rfl
      | _ => rfl
  | unheard outcome => rfl

theorem next_afterFailure (c : Config σ φ α) (n : Nat) (f : Failure) :
    (c.afterFailure n f).next = n + 1 := by
  rcases c.afterFailure_cases n f with hf | hf <;> rw [hf] <;> rfl

theorem next_afterEnd (c : Config σ φ α) (n : Nat) (reply : Reply (Except Failure α)) :
    (c.afterEnd n reply).next = n + 1 := by
  rcases reply with (f | value) | payload
  · exact c.next_afterFailure n f
  · rfl
  · exact c.next_afterFailure n _

theorem Rule.next_eq (h : c.Rule p m q) :
    q.next = p.next + m.act.checks.toNat ∧ (m.act.checks → p.number = p.next) := by
  cases h with
  | @refuse n _ _ payload _ => exact ⟨c.next_afterFailure n _, nofun⟩
  | @finish n _ _ _ reply _ => exact ⟨c.next_afterEnd n reply, nofun⟩
  | pass _ => exact ⟨rfl, fun _ => rfl⟩
  | stop _ _ => exact ⟨rfl, fun _ => rfl⟩
  | _ => exact ⟨rfl, nofun⟩

/-- Every act belongs to the attempt before the one that is the next after it. -/
theorem Rule.number_eq (h : c.Rule p m q) : p.number + 1 = q.next := by
  cases h with
  | @refuse n _ _ payload _ => exact (c.next_afterFailure n _).symm
  | @finish n _ _ _ reply _ => exact (c.next_afterEnd n reply).symm
  | _ => rfl

theorem Rule.number_le (h : c.Rule p m q) : p.number ≤ q.number := by
  have hnext : q.next ≤ q.number + 1 := by
    cases q <;> simp [Phase.next, Phase.number]
  have hnumber := h.number_eq
  omega

theorem Path.next_eq (h : c.Path p ms q) :
    q.next = p.next + (ms.map Moment.act).countP Act.checks := by
  induction h with
  | nil => rfl
  | cons hr _ ih =>
      have hm := hr.next_eq.1
      rw [List.map_cons, Act.countP_cons]
      omega

/-- The attempts of a run are numbered in turn. -/
theorem Ledger.openings (h : c.Ledger parent p ms notes q) : notes.filterMap Note.opening? =
    (List.range' p.next ((ms.map Moment.act).countP Act.checks)).map .ofNat := by
  induction h with
  | nil => rfl
  | @cons p q r m ms notes rest hr hn _ ih =>
      obtain ⟨hnext, hnumber⟩ := hr.next_eq
      rw [List.filterMap_append, hn.openings, ih, hnext, List.map_cons, Act.countP_cons]
      cases hc : m.act.checks with
      | false => simp
      | true => simp [hnumber hc, List.range'_succ]

end Config

namespace World

def openingsOf (r : Nat) (seen : List (Sight φ α)) : List UInt32 :=
  (notesOf r seen).filterMap Note.opening?

theorem openings_eq (env : σ) (ms : List (Move σ φ α)) {r : Nat} {run : Run σ φ α}
    (hr : ((World.init env).play ms).2.roster.runs[r]? = some run) :
    let seen := ((World.init env).play ms).1
    openingsOf r seen =
      (List.range ((actsOf r seen).countP Act.checks)).map fun i => .ofNat (i + 1) := by
  intro seen
  obtain ⟨q, hl, -⟩ := exists_ledger env ms hr
  rw [(balanced env ms).acts r]
  refine hl.openings.trans ?_
  rw [Phase.next, List.range'_eq_map_range, List.map_map]
  exact List.map_congr_left fun i _ => by simp [Nat.add_comm]

end World

end Reattempt
