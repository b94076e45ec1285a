import Reattempt.Proofs.World.Origins

/-! # What nothing takes back

A property of what callers' code shares that all code keeps holds from some moment on, whichever
runs are driven in between. -/

namespace Reattempt

variable {σ φ α : Type} {P : σ → Prop}

/-- Code that keeps a property of what is shared. -/
def Preserves {β : Type} (P : σ → Prop) (x : StateM σ β) : Prop := ∀ s, P s → P (x.run s).2

theorem Preserves.of_run {β : Type} {x : StateM σ β} (h : Preserves P x) {s t : σ} {b : β}
    (hx : x.run s = (b, t)) (hs : P s) : P t := by
  have ht := h s hs
  rwa [hx] at ht

/-- All code that a run calls keeps a property of what is shared. -/
structure Config.Keeps (c : Config σ φ α) (P : σ → Prop) : Prop where
  check : Preserves P c.check.poll
  call : Preserves P c.operation.call
  poll : ∀ operation, Preserves P (c.operation.poll operation)
  notifier : ∀ notifier cause, c.notifier = some notifier → Preserves P (notifier.consumer cause)
  classifier : ∀ cause, Preserves P (c.classifier.judge cause)

/-- The check of a run answers with the switch that it reads. By the time it has answered, the
switch may have been flipped. -/
def Config.Heeds (c : Config σ φ α) (flipped : σ → Bool) : Prop :=
  ∀ s, (c.check.poll.run s).1 = .returned (flipped s)

/-- A move that brings in only code that keeps a property. -/
def Move.Keeps (P : σ → Prop) : Move σ φ α → Prop
  | launch config _ _ => config.Keeps P
  | outside effect => ∀ s, P s → P (effect s)
  | _ => True

namespace Config

variable {c : Config σ φ α} {p q : Phase φ α} {m : Moment σ α} {ms : List (Moment σ α)}

theorem Rule.keeps (h : c.Rule p m q) (hk : c.Keeps P) (hm : P m.before) : P m.after := by
  cases h with
  | submit => exact hm
  | pass h => exact hk.check.of_run h hm
  | stop h _ => exact hk.check.of_run h hm
  | begin h => exact hk.call.of_run h hm
  | refuse h => exact hk.call.of_run h hm
  | suspend h => exact (hk.poll _).of_run h hm
  | finish h => exact (hk.poll _).of_run h hm
  | notify hn h => exact (hk.notifier _ _ hn).of_run h hm
  | accept h => exact (hk.classifier _).of_run h hm
  | reject h _ => exact (hk.classifier _).of_run h hm
  | request => exact hm
  | settle => exact hm

theorem Path.keeps (h : c.Path p ms q) (hk : c.Keeps P) : ∀ m ∈ ms, P m.before → P m.after := by
  induction h with
  | nil => simp
  | cons hr _ ih =>
      intro m hm
      obtain rfl | hm := List.mem_cons.mp hm
      · exact hr.keeps hk
      · exact ih m hm

end Config

/-- Moments with states before and after them such that a property is never lost. -/
def Flow (P : σ → Prop) : σ → List (Moment σ α) → σ → Prop
  | s, [], t => P s → P t
  | s, m :: ms, t => (P s → P m.before) ∧ (P m.before → P m.after) ∧ Flow P m.after ms t

namespace Flow

variable {s t u : σ} {m : Moment σ α} {ms ns : List (Moment σ α)}

theorem append (h : Flow P s ms t) (k : Flow P t ns u) : Flow P s (ms ++ ns) u := by
  induction ms generalizing s with
  | nil =>
      cases ns with
      | nil => exact fun hs => k (h hs)
      | cons n ns => exact ⟨fun hs => k.1 (h hs), k.2⟩
  | cons m ms ih => exact ⟨h.1, h.2.1, ih h.2.2⟩

theorem of_linked (h : Linked s ms t) (hk : ∀ m ∈ ms, P m.before → P m.after) :
    Flow P s ms t := by
  induction ms generalizing s with
  | nil =>
      cases h
      exact id
  | cons m ms ih =>
      refine ⟨fun hs => h.1 ▸ hs, hk m (by simp), ih h.2 fun m' hm' => hk m' (by simp [hm'])⟩

/-- What holds at the beginning holds before every moment and at the end. -/
theorem holds (h : Flow P s ms t) (hs : P s) : (∀ m ∈ ms, P m.before) ∧ P t := by
  induction ms generalizing s with
  | nil => exact ⟨by simp, h hs⟩
  | cons m ms ih =>
      have hm := h.1 hs
      obtain ⟨hall, ht⟩ := ih h.2.2 (h.2.1 hm)
      refine ⟨?_, ht⟩
      intro m' hm'
      obtain rfl | hm' := List.mem_cons.mp hm'
      · exact hm
      · exact hall m' hm'

theorem after (h : Flow P s (ms ++ m :: ns) t) : Flow P m.after ns t := by
  induction ms generalizing s with
  | nil => exact h.2.2
  | cons m' ms ih => exact ih h.2.2

end Flow

/-- The configuration that a move starts a run of. -/
def Move.config? : Move σ φ α → Option (Config σ φ α)
  | launch config _ _ => some config
  | _ => none

theorem Move.Keeps.config {m : Move σ φ α} (h : m.Keeps P) {c : Config σ φ α}
    (hc : m.config? = some c) : c.Keeps P := by
  cases m <;> cases hc
  exact h

namespace World

def configs (w : World σ φ α) : List (Config σ φ α) := w.roster.runs.map Run.config

variable {past : List (Sight φ α)} {tl : Nat → List (Moment σ α)} {w : World σ φ α}

theorem configs_eq_origins (w : World σ φ α) : w.configs = w.origins.map Prod.fst := by
  simp [configs, origins, Run.origin]

theorem Balanced.configs_perform (h : Balanced past tl w []) (m : Move σ φ α) :
    (w.perform m).2.configs = w.configs ++ m.config?.toList := by
  rw [configs_eq_origins, configs_eq_origins, h.origins_perform, List.map_append]
  cases m <;> rfl

theorem Balanced.configs_play (h : Balanced past tl w []) (ms : List (Move σ φ α)) :
    (w.play ms).2.configs = w.configs ++ ms.filterMap Move.config? := by
  have hmoves : (fun m : Move σ φ α => m.origin?.map Prod.fst) = Move.config? := by
    funext m
    cases m <;> rfl
  rw [configs_eq_origins, configs_eq_origins, h.origins_play, List.map_append,
    List.map_filterMap, hmoves]

/-- A move loses no property that all code keeps. -/
theorem Balanced.flow_perform (h : Balanced past tl w []) (hw : ∀ c ∈ w.configs, c.Keeps P)
    {m : Move σ φ α} (hm : m.Keeps P) (r : Nat) :
    Flow P w.roster.env (w.trail r m) (w.perform m).2.roster.env := by
  cases m with
  | launch config spans fate =>
      have henv : (w.perform (.launch config spans fate)).2.roster.env = w.roster.env := by
        cases fate <;> rfl
      rw [henv, trail]
      split
      · exact ⟨id, id, id⟩
      · exact id
  | poll place fate =>
      cases ht : w.held[place]? with
      | none =>
          simp only [trail, ht, World.perform]
          exact id
      | some t =>
          obtain ⟨run, p, q, hrun, -, hd⟩ := (h.take ht).drives
          have hkeeps : run.config.Keeps P :=
            hw _ (List.mem_map.mpr ⟨run, List.mem_of_getElem? hrun, rfl⟩)
          have hflow := Flow.of_linked hd.linked (hd.path.keeps hkeeps)
          simp only [trail_poll ht hrun fate r, World.perform, ht, env_afterPoll]
          split
          · exact hflow
          · exact fun hs => (hflow.holds hs).2
  | discard place =>
      cases ht : w.held[place]? with
      | none =>
          simp only [trail, World.perform, ht]
          exact id
      | some t =>
          simp only [trail, World.perform, ht]
          exact id
  | share run => exact id
  | release run => exact id
  | outside effect => exact hm w.roster.env

theorem Balanced.flow_play (h : Balanced past tl w []) (hw : ∀ c ∈ w.configs, c.Keeps P)
    {ms : List (Move σ φ α)} (hms : ∀ m ∈ ms, m.Keeps P) (r : Nat) :
    Flow P w.roster.env (w.timeline r ms) (w.play ms).2.roster.env ∧
      ∀ c ∈ (w.play ms).2.configs, c.Keeps P := by
  induction ms generalizing past tl w with
  | nil => exact ⟨id, hw⟩
  | cons m ms ih =>
      have hm := hms m List.mem_cons_self
      have hw' : ∀ c ∈ (w.perform m).2.configs, c.Keeps P := by
        intro c hc
        rw [h.configs_perform m, List.mem_append, Option.mem_toList] at hc
        exact hc.elim (hw c) hm.config
      obtain ⟨hflow, hlast⟩ :=
        ih (h.perform m) hw' fun m' hm' => hms m' (List.mem_cons_of_mem _ hm')
      exact ⟨(h.flow_perform hw hm r).append hflow, hlast⟩

end World

end Reattempt
