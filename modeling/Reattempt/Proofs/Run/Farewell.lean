import Reattempt.Proofs.Run.Ledger

/-! # Runs that nobody waits for

Who observes a run is looked at in one place only: where the run settles. All that comes of it there
is one entry, the farewell of a run of which nobody is left to be told the outcome. -/

namespace Reattempt

variable {σ φ α β : Type}

/-- A note that nobody was left to be told an outcome. -/
def Note.isFarewell : Note α → Bool
  | act _ => false
  | log entry => entry.event = .handleDropped

/-! ## The farewell in a ledger -/

namespace Config

variable {c : Config σ φ α} {parent : List Log.Span} {p q : Phase φ α} {a : Act α}
  {ms : List (Moment σ α)} {notes : List (Note α)}

theorem handleDropped_not_mem_writes (c : Config σ φ α) (p : Phase φ α) (a : Act α) :
    .handleDropped ∉ c.writes p a := by
  cases a with
  | checked reply => rcases reply with (_ | _) | payload <;> simp [writes]
  | polled reply => rcases reply with _ | ((f | value) | payload) <;> simp [writes]
  | notified cause reply => cases reply <;> simp [writes]
  | classified cause reply => rcases reply with (_ | _) | payload <;> cases p <;> simp [writes]
  | _ => simp [writes]

/-- A run says farewell with no act but the last one. -/
theorem Noting.farewell (h : c.Noting parent p a notes) : notes.any Note.isFarewell = false ∨
    ∃ o, a = .settled o ∧ notes = [.act a, .log ⟨.handleDropped, c.spansAt parent p.number⟩] := by
  cases h with
  | usual a =>
      refine .inl ?_
      simp only [List.any_cons, List.any_map, Note.isFarewell, Bool.false_or, List.any_eq_false,
        Function.comp_apply, decide_eq_true_eq]
      rintro event hevent rfl
      exact c.handleDropped_not_mem_writes p a hevent
  | unheard o => exact .inr ⟨o, rfl, rfl⟩

/-- What is written of a run is the same whether it says farewell or not, but for a last entry. -/
theorem Ledger.farewell (h : c.Ledger parent p ms notes q) : ∃ common : List (Note α),
    common.any Note.isFarewell = false ∧ (notes = common ∨ ∃ n o, q = .finished n o ∧
      notes = common ++ [.log ⟨.handleDropped, c.spansAt parent n⟩]) := by
  induction h with
  | nil => exact ⟨[], rfl, .inl rfl⟩
  | @cons p q r m ms notes rest hr hn ht ih =>
      obtain ⟨common, hcommon, hrest⟩ := ih
      obtain hquiet | ⟨o, hm, rfl⟩ := hn.farewell
      · refine ⟨notes ++ common, by rw [List.any_append, hquiet, hcommon, Bool.or_false], ?_⟩
        obtain rfl | ⟨n, o, hq, rfl⟩ := hrest
        · exact .inl rfl
        · exact .inr ⟨n, o, hq, (List.append_assoc _ _ _).symm⟩
      · -- nothing is written after a run has settled
        cases hr <;> cases hm
        cases ht with
        | nil => exact ⟨[.act (.settled o)], rfl, .inr ⟨_, _, rfl, rfl⟩⟩
        | cons hr' _ => cases hr'

theorem Ledger.no_farewell (h : c.Ledger parent p ms notes q) (hq : q.slot = .waiting) :
    notes.any Note.isFarewell = false := by
  obtain ⟨common, hcommon, rfl | ⟨n, o, rfl, -⟩⟩ := h.farewell
  · exact hcommon
  · cases hq

end Config

/-! ## Rosters that differ in their observers -/

/-- A run as it is seen by whom its observers are hidden from. -/
def Run.unobserved (run : Run σ φ α) : Run σ φ α := { run with observers := 0 }

namespace Roster

/-- The rosters differ in nothing but in how many observe their runs. -/
structure Alike (c d : Roster σ φ α) : Prop where
  env : c.env = d.env
  runs : c.runs.map Run.unobserved = d.runs.map Run.unobserved

/-- Two lists of lines that differ in farewells only. -/
def SameButFarewells (lines others : List (Line α)) : Prop :=
  lines.filter (fun line => !line.note.isFarewell) =
    others.filter fun line => !line.note.isFarewell

theorem SameButFarewells.append {lines lines' others others' : List (Line α)}
    (h : SameButFarewells lines others) (h' : SameButFarewells lines' others') :
    SameButFarewells (lines ++ lines') (others ++ others') := by
  rw [SameButFarewells, List.filter_append, List.filter_append, h, h']

variable {c d : Roster σ φ α}

theorem Alike.symm (h : c.Alike d) : d.Alike c := ⟨h.env.symm, h.runs.symm⟩

theorem Alike.trans {e : Roster σ φ α} (h : c.Alike d) (k : d.Alike e) : c.Alike e :=
  ⟨h.env.trans k.env, h.runs.trans k.runs⟩

/-- Alike rosters know the same runs. -/
theorem Alike.lookup (h : c.Alike d) (r : Nat) : c.runs[r]? = none ∧ d.runs[r]? = none ∨
    ∃ run observers, c.runs[r]? = some run ∧
      d.runs[r]? = some { run with observers := observers } := by
  have hr : c.runs[r]?.map Run.unobserved = d.runs[r]?.map Run.unobserved := by
    rw [← List.getElem?_map, h.runs, List.getElem?_map]
  cases hc : c.runs[r]? with
  | none =>
      rw [hc] at hr
      exact .inl ⟨rfl, Option.map_eq_none_iff.mp hr.symm⟩
  | some run =>
      rw [hc] at hr
      obtain ⟨run', hd, hrun⟩ := Option.map_eq_some_iff.mp hr.symm
      refine .inr ⟨run, run'.observers, rfl, hd.trans (congrArg some ?_)⟩
      exact congrArg (fun run : Run σ φ α => { run with observers := run'.observers }) hrun

theorem Alike.length (h : c.Alike d) : c.runs.length = d.runs.length := by
  simpa using congrArg List.length h.runs

theorem Alike.outcome? (h : c.Alike d) (r : Nat) : c.outcome? r = d.outcome? r := by
  obtain ⟨hc, hd⟩ | ⟨run, observers, hc, hd⟩ := h.lookup r
  · rw [Roster.outcome?, Roster.outcome?, hc, hd]
  · rw [Roster.outcome?, Roster.outcome?, hc, hd]
    rfl

theorem Alike.addRun (h : c.Alike d) (run : Run σ φ α) : (c.addRun run).Alike (d.addRun run) := by
  refine ⟨h.env, ?_⟩
  simp only [Roster.addRun, List.map_append, h.runs]

theorem Alike.modifyRun (h : c.Alike d) (r : Nat) {f : Run σ φ α → Run σ φ α}
    (hf : ∀ run, (f run).unobserved = f run.unobserved) :
    (c.modifyRun r f).Alike (d.modifyRun r f) :=
  ⟨h.env, by rw [Roster.modifyRun, Roster.modifyRun, map_modify_comm hf, map_modify_comm hf,
    h.runs]⟩

/-- A roster stays like another when observers of a run come or go. -/
theorem Alike.observed (h : c.Alike d) (r : Nat) (f : Nat → Nat) :
    (c.modifyRun r fun run => { run with observers := f run.observers }).Alike d := by
  have hobservers : ∀ run : Run σ φ α,
      { run with observers := f run.observers }.unobserved = run.unobserved := fun _ => rfl
  exact ⟨h.env, ((map_modify_comm hobservers c.runs r).trans (List.modify_id r _)).trans h.runs⟩

/-- Whether anybody is told an outcome shows in a farewell only. -/
theorem Alike.settle (h : c.Alike d) (r : Nat) (outcome : Outcome α) (path : List Log.Span) :
    SameButFarewells ((Roster.settle r outcome).run path c).notes
        ((Roster.settle r outcome).run path d).notes ∧
      ((Roster.settle r outcome).run path c).state.Alike
        ((Roster.settle r outcome).run path d).state := by
  have hnone : ∀ c : Roster σ φ α, SameButFarewells ((c.unheard r path).map (Line.mk r)) [] := by
    intro c
    unfold unheard
    split <;> rfl
  rw [run_settle, run_settle]
  have hact : SameButFarewells [⟨r, .act (.settled outcome)⟩] [⟨r, .act (.settled outcome)⟩] := rfl
  exact ⟨hact.append ((hnone c).trans (hnone d).symm), h.modifyRun r fun _ => rfl⟩

/-- Driving a ticket does not depend on who observes the runs. -/
theorem Alike.drive (h : c.Alike d) (t : Ticket φ) (spans : List Log.Span) :
    ((Roster.drive t).run spans c).value = ((Roster.drive t).run spans d).value ∧
      SameButFarewells ((Roster.drive t).run spans c).notes
        ((Roster.drive t).run spans d).notes ∧
      ((Roster.drive t).run spans c).state.Alike ((Roster.drive t).run spans d).state := by
  obtain ⟨hc, hd⟩ | ⟨run, observers, hc, hd⟩ := h.lookup t.run
  · rw [run_drive_none hc, run_drive_none hd]
    exact ⟨rfl, rfl, h⟩
  · have hpath : ({ run with observers := observers } : Run σ φ α).path t.attempt =
        run.path t.attempt := rfl
    rw [run_drive hc, run_drive hd, hpath, h.env]
    dsimp only
    generalize (run.config.proceed t.attempt t.stage).run (run.path t.attempt) d.env = told
    obtain ⟨step, notes, s⟩ := told
    have hafter : Alike (⟨s, c.runs⟩ : Roster σ φ α) ⟨s, d.runs⟩ := ⟨rfl, h.runs⟩
    cases step with
    | suspended operation pause => exact ⟨rfl, rfl, hafter⟩
    | settled outcome =>
        obtain ⟨hsaid, hsettled⟩ := hafter.settle t.run outcome (run.path t.attempt)
        exact ⟨rfl, .append rfl hsaid, hsettled⟩
    | retry delay => exact ⟨rfl, rfl, hafter⟩

/-! ## Where farewell is said -/

/-- A driven run says farewell if it settles and nobody observes it. -/
theorem any_farewell_drive {r : Nat} {run : Run σ φ α} {p : Phase φ α} {t : Ticket φ}
    (hr : c.runs[r]? = some run) (hp : p.ticket? r = some t) (spans : List Log.Span) :
    let notes := notesOf r ((Roster.drive t).run spans c).notes
    notes.any Note.isFarewell = (!((notes.filterMap Note.act?).filterMap Act.outcome?).isEmpty &&
      decide (c.observers r = 0)) := by
  obtain rfl := Phase.run_of_ticket? hp
  obtain ⟨hn, hl, -⟩ := run.config.proceed_ledger run.parent c.env hp
  have hpath : run.config.spansAt run.parent p.number = run.path t.attempt := by
    rw [Run.path, hn]
    rfl
  have hslot : ∀ step : Step φ α, (step.phase p.number).slot = .waiting := by
    rintro (_ | _ | _) <;> rfl
  -- the attempt itself neither settles the run nor says farewell
  have hquiet := hl.no_farewell (hslot _)
  have hpending := hl.path.settlements
  rw [Phase.slot_of_ticket? hp, hslot, ← hl.acts] at hpending
  rw [notesOf_drive hr, ← hpath]
  generalize (run.config.proceed t.attempt t.stage).run _ _ = told at hquiet hpending ⊢
  simp only [Slot.outcome?, Option.toList_none, List.nil_append] at hpending
  simp only [List.any_append, List.filterMap_append, hquiet, hpending, Bool.false_or,
    List.nil_append]
  cases told.value with
  | suspended operation pause => rfl
  | settled outcome =>
      have hobservers : (⟨told.state, c.runs⟩ : Roster σ φ α).observers t.run =
        c.observers t.run := rfl
      by_cases h : c.observers t.run = 0 <;>
        simp [closingNotes, unheard, hobservers, h, Note.isFarewell, Note.act?, Act.outcome?]
  | retry delay => rfl

/-! ## Letting go while the work is polled -/

/-- What is done with what an attempt comes to. -/
def conclude (t : Ticket φ) : Step φ α → Noted (Line α) (Roster σ φ α) (Driven φ)
  | .suspended operation pause => pure (.suspended { t with stage := .underway operation } pause)
  | .settled outcome => do
    settle t.run outcome
    pure .finished
  | .retry delay => do
    Noted.note (Line.mk t.run (.act (.requested delay)))
    pure (.handedOver delay ⟨t.run, t.attempt + 1, .queued⟩)

/-- Drives a ticket of a run. Between the two given parts of its attempt, an observer of some run
lets go. -/
def driveAround (t : Ticket φ) (run : Run σ φ α) (first : Noted (Note α) σ β)
    (second : β → Noted (Note α) σ (Step φ α)) (observed : Nat) :
    Noted (Line α) (Roster σ φ α) (Driven φ) :=
  Noted.within (run.path t.attempt) do
    let b ← onEnv t.run first
    modify fun c => c.removeObserver observed
    let step ← onEnv t.run (second b)
    conclude t step

theorem run_conclude {run : Run σ φ α} {t : Ticket φ} (hr : c.runs[t.run]? = some run)
    (spans : List Log.Span) : (drive t).run spans c =
      (onEnv t.run (run.config.proceed t.attempt t.stage) >>= conclude t).run
        (run.path t.attempt) c := by
  rw [run_drive hr]
  simp only [Noted.run_bind, onEnv, Noted.run_focus]
  cases ((run.config.proceed t.attempt t.stage).run (run.path t.attempt) c.env).value <;>
    simp [conclude]

/-- It does not matter when in a poll an observer lets go: it might as well have been before. -/
theorem run_driveAround {run : Run σ φ α} {t : Ticket φ} {first : Noted (Note α) σ β}
    {second : β → Noted (Note α) σ (Step φ α)} (hr : c.runs[t.run]? = some run)
    (hparts : run.config.proceed t.attempt t.stage = first >>= second) (observed : Nat)
    (spans : List Log.Span) : (driveAround t run first second observed).run spans c =
      (drive t).run spans (c.removeObserver observed) := by
  obtain ⟨run', hr', hconfig, hpath⟩ : ∃ run',
      (c.removeObserver observed).runs[t.run]? = some run' ∧
        run'.config = run.config ∧ run'.path t.attempt = run.path t.attempt := by
    simp only [removeObserver, modifyRun, List.getElem?_modify, hr]
    split
    · exact ⟨_, rfl, rfl, rfl⟩
    · exact ⟨_, rfl, rfl, rfl⟩
  rw [run_conclude hr', hconfig, hpath, hparts]
  simp [driveAround, onEnv, removeObserver, modifyRun]

end Roster

end Reattempt
