import Reattempt.Proofs.Run.Wording
import Reattempt.Proofs.World.Abandonment

/-! # The log of a run

What a run writes is what its attempts write, one after the other, and nothing else. -/

namespace Reattempt.World

variable {σ φ α : Type}

/-- The entries of a run. -/
def entriesOf (r : Nat) (seen : List (Sight φ α)) : List Log.Entry :=
  (notesOf r seen).filterMap Note.entry?

/-- As long as anybody is there to be told the outcome, the acts of a run tell what it writes. -/
theorem entries_eq (env : σ) (ms : List (Move σ φ α)) {r : Nat} {run : Run σ φ α}
    (hr : ((World.init env).play ms).2.roster.runs[r]? = some run)
    (hkept : (World.init env).audience? r ms ≠ some 0) (f : Failure) :
    let seen := ((World.init env).play ms).1
    entriesOf r seen = run.config.chronicle run.parent 0 f (actsOf r seen) := by
  intro seen
  obtain ⟨q, hl, -⟩ := exists_ledger env ms hr
  have hquiet : (notesOf r seen).any Note.isFarewell = false :=
    (any_farewell_play env [] ms r).trans (decide_eq_false hkept)
  have hstart : (Phase.unstarted : Phase φ α).Recalls 0 f := ⟨rfl, nofun⟩
  rw [(balanced env ms).acts r]
  exact hl.entries hquiet hstart

/-- What a run has done and written, attempt by attempt. -/
theorem exists_reports (env : σ) (ms : List (Move σ φ α)) {r : Nat} {run : Run σ φ α}
    (hr : ((World.init env).play ms).2.roster.runs[r]? = some run)
    (hkept : (World.init env).audience? r ms ≠ some 0) :
    let seen := ((World.init env).play ms).1
    let c := run.config
    ∃ (attempts : List (List (Act α) × List Log.Event)) (more : _) (events : _),
      (∀ i (hi : i < attempts.length), c.Reports (i + 1) attempts[i].1 none attempts[i].2) ∧
      c.Latest (attempts.length + 1) more events ∧
      actsOf r seen = .submitted :: ((attempts.map Prod.fst).flatten ++ more) ∧
      entriesOf r seen = c.journal run.parent 1 (attempts.map Prod.snd ++ [events]) := by
  intro seen c
  obtain ⟨tries, htries, hend⟩ := exists_course env ms hr
  have htries' : ∀ i (hi : i < tries.length), c.Attempt (0 + i + 1) tries[i] none := by
    simpa using htries
  obtain ⟨more, hacts, hlatest⟩ : ∃ more, actsOf r seen = .submitted :: (tries.flatten ++ more) ∧
      ∀ g, ∃ events, c.Latest (tries.length + 1) more events ∧
        c.chronicle run.parent tries.length g more =
          c.entriesAt run.parent (tries.length + 1) events := by
    obtain ⟨rest, stage, hacts, hbegun, -⟩ | ⟨last, outcome, hacts, hlast, -⟩ := hend
    · exact ⟨rest, hacts, fun g => ⟨_, .begun hbegun, hbegun.chronicle⟩⟩
    · exact ⟨_, hacts, fun g => hlast.latest⟩
  obtain ⟨attempts, g, rfl, hreports, hwritten⟩ :=
    Config.chronicle_tries run.parent htries' (f := .ofText "") more
  obtain ⟨events, hlast, hrest⟩ := hlatest g
  rw [List.length_map] at hlast hrest
  refine ⟨attempts, more, events, by simpa using hreports, hlast, hacts, ?_⟩
  rw [entries_eq env ms hr hkept (.ofText ""), hacts, Config.journal_append_singleton,
    List.length_map, Nat.add_comm 1, ← hrest]
  simp only [List.length_map, Nat.zero_add] at hwritten
  exact hwritten

/-- What a run with an observer writes is, attempt by attempt, what is reported of the attempt in
its spans, up to the attempt that it has begun or that has decided it. Each entry has the level, the
message and the fields of its kind, word for word. So each request of a wait has one entry about the
failure before it, which is the whole failure, and one for who watches, which tells the very delay
that is asked for; and there are no other entries of either kind. -/
theorem exact_ledger (env : σ) (ms : List (Move σ φ α)) (r : Nat) (run : Run σ φ α)
    (hr : ((World.init env).play ms).2.roster.runs[r]? = some run)
    (hkept : (World.init env).audience? r ms ≠ some 0) :
    let seen := ((World.init env).play ms).1
    let c := run.config
    (∃ (attempts : List (List (Act α) × List Log.Event)) (more : _) (events : _),
      (∀ i (hi : i < attempts.length), c.Reports (i + 1) attempts[i].1 none attempts[i].2) ∧
      c.Latest (attempts.length + 1) more events ∧
      actsOf r seen = .submitted :: ((attempts.map Prod.fst).flatten ++ more) ∧
      entriesOf r seen = c.journal run.parent 1 (attempts.map Prod.snd ++ [events])) ∧
      (∀ entry ∈ entriesOf r seen,
        c.Wording entry.event entry.event.level entry.event.message entry.event.fields) ∧
      (entriesOf r seen).filter (fun entry => entry.event.isFailure) =
        ((((actsOf r seen).filterMap Act.failure?).take (requestsOf r seen).length).zipIdx 1).map
          (fun (f, i) => ⟨.failed c.session c.action f.text, run.path (.ofNat i)⟩) ∧
      (entriesOf r seen).filter (fun entry => entry.event.isInfo) =
        ((requestsOf r seen).zipIdx 1).map
          (fun (d, i) => ⟨.waiting c.session c.action d, run.path (.ofNat i)⟩) ∧
      ((entriesOf r seen).filter (fun entry => entry.event.isInfo)).map
          (fun entry => entry.event.message) =
        (requestsOf r seen).map fun d =>
          "client <" ++ c.session ++ ">: " ++ "waiting " ++ d.text ++ " before retrying to <" ++
            c.action ++ ">" := by
  intro seen c
  obtain ⟨attempts, more, events, hreports, hlatest, hacts, hentries⟩ :=
    exists_reports env ms hr hkept
  obtain ⟨hfailures, hinfos⟩ := Config.journal_requests run.parent hreports hlatest
  rw [← hacts, ← hentries] at hfailures hinfos
  have hworded : ∀ entry ∈ entriesOf r seen, c.Worded entry.event := by
    rw [entries_eq env ms hr hkept (.ofText "")]
    exact c.worded_chronicle run.parent 0 _ _
  refine ⟨⟨attempts, more, events, hreports, hlatest, hacts, hentries⟩, hworded, hfailures, hinfos,
    ?_⟩
  conv_rhs => rw [← List.zipIdx_map_fst 1 (requestsOf r seen), List.map_map]
  rw [hinfos, List.map_map]
  rfl

/-- The first failure of a run is written down, and so is the wait after it. The second one is
permanent, and nothing is waited for. -/
theorem exact_ledger_overloaded :
    let seen := ((World.init 0).play overloadedMoves).1
    (∀ entry ∈ entriesOf 0 seen,
        overloaded.Wording entry.event entry.event.level entry.event.message entry.event.fields) ∧
      (entriesOf 0 seen).filter (fun entry => entry.event.isFailure) =
        [⟨.failed "s-1" "fetch" "down", [.attempt "s-1" "fetch" 1]⟩] ∧
      (entriesOf 0 seen).filter (fun entry => entry.event.isInfo) =
        [⟨.waiting "s-1" "fetch" (.ofSecs 1), [.attempt "s-1" "fetch" 1]⟩] ∧
      ((entriesOf 0 seen).filter (fun entry => entry.event.isInfo)).map
        (fun entry => entry.event.message) =
          ["client <s-1>: waiting 1s before retrying to <fetch>"] := by
  intro seen
  have hrun : ((World.init 0).play overloadedMoves).2.roster.runs[0]? = some
      ⟨overloaded, [], .settled (.error (.fatal (.completion (.panic "denied")))), 1⟩ := rfl
  have hsomebody : (World.init 0).audience? 0 overloadedMoves = some 1 := rfl
  have hkept : (World.init 0).audience? 0 overloadedMoves ≠ some 0 := by
    rw [hsomebody]
    decide
  obtain ⟨-, hworded, hfailures, hinfos, hmessages⟩ := exact_ledger 0 overloadedMoves 0 _ hrun hkept
  exact ⟨hworded, hfailures, hinfos, hmessages.trans (by decide)⟩

end Reattempt.World
