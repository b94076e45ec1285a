import Reattempt.Proofs.Run.Tally
import Reattempt.Proofs.World.Basic

/-! # A run without hope

The simplest run that never ends: its operation always fails, and its classifier accepts every
failure. -/

namespace Reattempt

/-- An operation that fails at once, whenever it is called, with a classifier that wants another
attempt every time. -/
def Config.hopeless (backoff : Backoff) : Config Unit Unit Unit where
  action := "connect"
  session := "s-1"
  operation := ⟨pure (.returned ()), fun _ => pure (.done (.returned (.error (.ofText "down"))))⟩
  check := ⟨pure (.returned false)⟩
  scheduler := 0
  notifier := none
  classifier := .always
  backoff := backoff

namespace World

/-- The world of one hopeless run, with the ticket of the given attempt. -/
def hopeless (backoff : Backoff) (attempt : UInt32) : World Unit Unit Unit :=
  ⟨⟨(), [⟨.hopeless backoff, [], .waiting, 1⟩]⟩, [⟨0, attempt, .queued⟩]⟩

def hopelessMoves (backoff : Backoff) (polls : Nat) : List (Move Unit Unit Unit) :=
  .launch (.hopeless backoff) [] .kept :: List.replicate polls (.poll 0 .kept)

def hopelessActs (delay : Duration) : List (Act Unit) :=
  [.checked (.returned false), .called (.returned ()),
    .polled (some (.returned (.error (.ofText "down")))),
    .classified (Failure.ofText "down").bare (.returned true), .requested delay]

variable (backoff : Backoff)

theorem perform_hopeless (attempt : UInt32) :
    ((hopeless backoff attempt).perform (.poll 0 .kept)).2 = hopeless backoff (attempt + 1) ∧
      dropsOf 0 ((hopeless backoff attempt).perform (.poll 0 .kept)).1 = [] ∧
      actsOf 0 ((hopeless backoff attempt).perform (.poll 0 .kept)).1 =
        hopelessActs (backoff.delay attempt) := ⟨rfl, rfl, rfl⟩

/-- Each poll of a hopeless run makes one attempt and hands over to the next. -/
theorem play_hopeless (polls : Nat) :
    ((World.init ()).play (hopelessMoves backoff polls)).2 =
        hopeless backoff (.ofNat (polls + 1)) ∧
      dropsOf 0 ((World.init ()).play (hopelessMoves backoff polls)).1 = [] ∧
      actsOf 0 ((World.init ()).play (hopelessMoves backoff polls)).1 =
        .submitted :: (List.range polls).flatMap fun i =>
          hopelessActs (backoff.delay (.ofNat (i + 1))) := by
  induction polls with
  | zero => exact ⟨rfl, rfl, rfl⟩
  | succ polls ih =>
      obtain ⟨hw, hd, ha⟩ := ih
      obtain ⟨hw', hd', ha'⟩ := perform_hopeless backoff (.ofNat (polls + 1))
      have hmoves : hopelessMoves backoff (polls + 1) =
          hopelessMoves backoff polls ++ [.poll 0 .kept] := by
        simp [hopelessMoves, List.replicate_succ']
      rw [hmoves, play_append, hw]
      simp only [play_cons, play_nil, List.append_nil, dropsOf_append, actsOf_append]
      refine ⟨?_, ?_, ?_⟩
      · rw [hw']
        simp
      · rw [hd, hd']
        rfl
      · rw [ha, ha']
        simp [List.range_succ]

theorem hopelessActs_persist {delay : Duration} {a : Act Unit} (h : a ∈ hopelessActs delay) :
    a.Persists := by
  simp only [hopelessActs, List.mem_cons, List.not_mem_nil, or_false] at h
  obtain rfl | rfl | rfl | rfl | rfl := h
  · exact rfl
  · trivial
  · trivial
  · exact rfl
  · trivial

/-- A hopeless run goes on failing, and every poll of it is one more accepted failure. -/
theorem hopeless_persists (polls : Nat) :
    (∀ a ∈ actsOf 0 ((World.init ()).play (hopelessMoves backoff polls)).1, a.Persists) ∧
      (actsOf 0 ((World.init ()).play (hopelessMoves backoff polls)).1).countP Act.accepts = polls ∧
      (actsOf 0 ((World.init ()).play (hopelessMoves backoff polls)).1).countP Act.passes =
        polls := by
  rw [(play_hopeless backoff polls).2.2]
  refine ⟨?_, ?_, ?_⟩
  · intro a ha
    obtain rfl | ha := List.mem_cons.mp ha
    · trivial
    · obtain ⟨i, -, ha⟩ := List.mem_flatMap.mp ha
      exact hopelessActs_persist ha
  · have hone : ∀ delay, (hopelessActs delay).countP Act.accepts = 1 := fun _ => rfl
    simp [List.countP_flatMap, hone, Function.comp_def, Act.accepts, List.map_const']
  · have hone : ∀ delay, (hopelessActs delay).countP Act.passes = 1 := fun _ => rfl
    simp [List.countP_flatMap, hone, Function.comp_def, Act.passes, List.map_const']

end World

end Reattempt
