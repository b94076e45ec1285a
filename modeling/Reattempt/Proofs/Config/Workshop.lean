import Reattempt.Proofs.Bench.Clock
import Reattempt.Proofs.Config.Changes

/-! # Drafts that are used again

In a workshop every draft and every configuration that was made stays at hand. Any of them may be
used at any time: drafts to make others, to be frozen to configurations or to be executed, and
configurations to be copied or executed. All the while the bench is in use, on which runs of these
and other configurations are driven. -/

namespace Reattempt

open Draft

variable {σ φ α : Type}

namespace Bench

/-- What is given back for an action: the number of a run that it starts, or the panic of the
scheduler. -/
def handle? (b : Bench σ φ α) : Action σ φ α → Option (Except Payload Nat)
  | .launch config spans => some ((Bench.launch config).run spans b).value
  | _ => none

/-- What is given back for some actions, in their order. -/
def handles (b : Bench σ φ α) : List (Action σ φ α) → List (Except Payload Nat)
  | [] => []
  | a :: as => (b.handle? a).toList ++ (b.perform a).2.handles as

theorem handles_singleton (b : Bench σ φ α) (a : Action σ φ α) :
    b.handles [a] = (b.handle? a).toList :=
  List.append_nil _

theorem handles_append (b : Bench σ φ α) (as bs : List (Action σ φ α)) :
    b.handles (as ++ bs) = b.handles as ++ (b.play as).2.handles bs := by
  induction as generalizing b with
  | nil => rfl
  | cons a as ih => simp only [List.cons_append, handles, play_cons, ih, List.append_assoc]

end Bench

/-- Drafts and configurations are known by their places among all that were made. -/
structure Workshop (σ φ α : Type) where
  drafts : List (Draft σ φ α Scheduled)
  configs : List (Config σ φ α)
  bench : Bench σ φ α
  /-- What was given back for each run that was to be started. -/
  handles : List (Except Payload Nat)

/-- What may be done in a workshop. Nothing happens where there is nothing at the given place. -/
inductive Deed (σ φ α : Type) where
  /-- A call makes one more draft of the one at the given place. -/
  | change (place : Nat) (x : Change σ)
  /-- A draft is frozen to a configuration. -/
  | freeze (place : Nat)
  | copy (place : Nat)
  /-- A draft is executed in some spans. -/
  | executeDraft (place : Nat) (spans : List Log.Span)
  /-- A configuration is executed in some spans. -/
  | execute (place : Nat) (spans : List Log.Span)
  /-- Runs are driven on the bench, or something else happens there. -/
  | drive (action : Bench.Action σ φ α)

namespace Workshop

/-- A workshop with one draft, and a bench in any state. -/
def opened (d : Draft σ φ α Scheduled) (b : Bench σ φ α) : Workshop σ φ α := ⟨[d], [], b, []⟩

/-- Starts a run on the bench. -/
def start (w : Workshop σ φ α) (run : Noted (Line α) (Bench σ φ α) (Except Payload Nat))
    (spans : List Log.Span) : List (Line α) × Workshop σ φ α :=
  let told := run.run spans w.bench
  (told.notes, { w with bench := told.state, handles := w.handles ++ [told.value] })

/-- One more configuration is kept. -/
def keep (w : Workshop σ φ α) (c : Config σ φ α) : Workshop σ φ α :=
  { w with configs := w.configs ++ [c] }

/-- What is said in a deed, and the workshop after it. -/
def perform (w : Workshop σ φ α) : Deed σ φ α → List (Line α) × Workshop σ φ α
  | .change place x =>
    ([], { w with drafts := w.drafts ++ (w.drafts[place]?.map fun d => d.change x).toList })
  | .freeze place =>
    ([], { w with configs := w.configs ++ (w.drafts[place]?.map Draft.toConfig).toList })
  | .copy place =>
    ([], { w with configs := w.configs ++ (w.configs[place]?.map Config.copy).toList })
  | .executeDraft place spans =>
    match w.drafts[place]? with
    | none => ([], w)
    | some d => w.start (Bench.launchDraft d) spans
  | .execute place spans =>
    match w.configs[place]? with
    | none => ([], w)
    | some c => w.start (Bench.launch c) spans
  | .drive action =>
    let (lines, after) := w.bench.perform action
    (lines, { w with bench := after, handles := w.handles ++ (w.bench.handle? action).toList })

def play (w : Workshop σ φ α) : List (Deed σ φ α) → List (Line α) × Workshop σ φ α
  | [] => ([], w)
  | d :: ds =>
    let (lines, after) := w.perform d
    let (rest, last) := after.play ds
    (lines ++ rest, last)

theorem play_cons (w : Workshop σ φ α) (d : Deed σ φ α) (ds : List (Deed σ φ α)) :
    w.play (d :: ds) = ((w.perform d).1 ++ ((w.perform d).2.play ds).1,
      ((w.perform d).2.play ds).2) := rfl

end Workshop

/-- What can be known of a workshop without a look at what is in it: the calls that have led to each
draft, and those that have led to each configuration before it was frozen. -/
structure Chart (σ : Type) where
  drafts : List (List (Change σ))
  configs : List (List (Change σ))

namespace Chart

/-- No call has led to the first draft. -/
def first : Chart σ := ⟨[[]], []⟩

def record (c : Chart σ) : Deed σ φ α → Chart σ
  | .change place x =>
    { c with drafts := c.drafts ++ (c.drafts[place]?.map fun path => path ++ [x]).toList }
  | .freeze place => { c with configs := c.configs ++ c.drafts[place]?.toList }
  | .copy place => { c with configs := c.configs ++ c.configs[place]?.toList }
  | _ => c

def recordAll (c : Chart σ) (ds : List (Deed σ φ α)) : Chart σ := ds.foldl record c

/-- What a deed should do on the bench: whatever is executed, a run of the configuration that is due
is started. -/
def action? (c : Chart σ) (e : Essentials σ φ α) : Deed σ φ α → Option (Bench.Action σ φ α)
  | .executeDraft place spans => c.drafts[place]?.map fun path => .launch (e.due path) spans
  | .execute place spans => c.configs[place]?.map fun path => .launch (e.due path) spans
  | .drive action => some action
  | _ => none

def actions (c : Chart σ) (e : Essentials σ φ α) : List (Deed σ φ α) → List (Bench.Action σ φ α)
  | [] => []
  | d :: ds => (c.action? e d).toList ++ (c.record d).actions e ds

end Chart

namespace Workshop

variable {w : Workshop σ φ α} {e : Essentials σ φ α} {c : Chart σ}

theorem launchDraft_follow (path : List (Change σ)) :
    (Bench.launchDraft (e.draft.follow path) : Noted (Line α) (Bench σ φ α) _) =
      Bench.launch (e.due path) := by
  rw [Bench.launchDraft, e.toConfig_follow]

/-- Everything in a workshop is as its chart says. -/
structure Charted (w : Workshop σ φ α) (e : Essentials σ φ α) (c : Chart σ) : Prop where
  drafts : w.drafts = c.drafts.map e.draft.follow
  configs : w.configs = c.configs.map e.due

theorem charted_opened (e : Essentials σ φ α) (b : Bench σ φ α) :
    Charted (opened e.draft b) e .first :=
  ⟨rfl, rfl⟩

theorem Charted.getElem?_drafts (h : Charted w e c) (place : Nat) :
    w.drafts[place]? = c.drafts[place]?.map e.draft.follow := by
  rw [h.drafts, List.getElem?_map]

theorem Charted.getElem?_configs (h : Charted w e c) (place : Nat) :
    w.configs[place]? = c.configs[place]?.map e.due := by
  rw [h.configs, List.getElem?_map]

/-- One deed keeps the chart right. -/
theorem Charted.perform (h : Charted w e c) (d : Deed σ φ α) :
    Charted (w.perform d).2 e (c.record d) := by
  cases d with
  | change place x =>
      refine ⟨?_, h.configs⟩
      simp only [Workshop.perform, Chart.record, h.getElem?_drafts, List.map_append, ← h.drafts]
      cases c.drafts[place]? with
      | none => rfl
      | some path => simp [follow_concat]
  | freeze place =>
      refine ⟨h.drafts, ?_⟩
      simp only [Workshop.perform, Chart.record, h.getElem?_drafts, List.map_append, ← h.configs]
      cases c.drafts[place]? with
      | none => rfl
      | some path => simp [e.toConfig_follow]
  | copy place =>
      refine ⟨h.drafts, ?_⟩
      simp only [Workshop.perform, Chart.record, h.getElem?_configs, List.map_append, ← h.configs]
      cases c.configs[place]? with
      | none => rfl
      | some path => simp
  | executeDraft place spans =>
      simp only [Workshop.perform]
      cases w.drafts[place]? with
      | none => exact h
      | some d => exact ⟨h.drafts, h.configs⟩
  | execute place spans =>
      simp only [Workshop.perform]
      cases w.configs[place]? with
      | none => exact h
      | some config => exact ⟨h.drafts, h.configs⟩
  | drive action => exact ⟨h.drafts, h.configs⟩

/-- Nothing happens on the bench. -/
theorem bench_idle (w : Workshop σ φ α) :
    ([], w.bench) = w.bench.play [] ∧ w.handles = w.handles ++ w.bench.handles [] :=
  ⟨rfl, (List.append_nil _).symm⟩

/-- One action happens on the bench. -/
theorem bench_single (w : Workshop σ φ α) (a : Bench.Action σ φ α) :
    w.bench.perform a = w.bench.play [a] ∧
      w.handles ++ (w.bench.handle? a).toList = w.handles ++ w.bench.handles [a] := by
  rw [Bench.play_singleton, Bench.handles_singleton]
  exact ⟨rfl, rfl⟩

/-- On the bench a deed is the action that the chart tells. -/
theorem Charted.bench_perform (h : Charted w e c) (d : Deed σ φ α) :
    ((w.perform d).1, (w.perform d).2.bench) = w.bench.play (c.action? e d).toList ∧
      (w.perform d).2.handles = w.handles ++ w.bench.handles (c.action? e d).toList := by
  cases d with
  | change place x => exact w.bench_idle
  | freeze place => exact w.bench_idle
  | copy place => exact w.bench_idle
  | executeDraft place spans =>
      simp only [Workshop.perform, Chart.action?, h.getElem?_drafts]
      cases c.drafts[place]? with
      | none => exact w.bench_idle
      | some path =>
          simp only [Option.map_some, launchDraft_follow]
          exact w.bench_single (.launch (e.due path) spans)
  | execute place spans =>
      simp only [Workshop.perform, Chart.action?, h.getElem?_configs]
      cases c.configs[place]? with
      | none => exact w.bench_idle
      | some path => exact w.bench_single (.launch (e.due path) spans)
  | drive action => exact w.bench_single action

theorem Charted.play (h : Charted w e c) (ds : List (Deed σ φ α)) :
    Charted (w.play ds).2 e (c.recordAll ds) := by
  induction ds generalizing w c with
  | nil => exact h
  | cons d ds ih => exact ih (h.perform d)

theorem Charted.bench_play (h : Charted w e c) (ds : List (Deed σ φ α)) :
    ((w.play ds).1, (w.play ds).2.bench) = w.bench.play (c.actions e ds) ∧
      (w.play ds).2.handles = w.handles ++ w.bench.handles (c.actions e ds) := by
  induction ds generalizing w c with
  | nil => exact ⟨rfl, (List.append_nil _).symm⟩
  | cons d ds ih =>
      obtain ⟨hplay, hhandles⟩ := h.bench_perform d
      obtain ⟨hrest, hothers⟩ := ih (h.perform d)
      rw [play_cons, Chart.actions, Bench.play_append, Bench.handles_append, ← hplay]
      refine ⟨?_, ?_⟩
      · rw [← hrest]
      · rw [hothers, hhandles, List.append_assoc]

/-- What was made stays in its place. -/
theorem kept_perform (w : Workshop σ φ α) (d : Deed σ φ α) :
    w.drafts <+: (w.perform d).2.drafts ∧ w.configs <+: (w.perform d).2.configs := by
  cases d with
  | change place x => exact ⟨List.prefix_append _ _, List.prefix_refl _⟩
  | freeze place => exact ⟨List.prefix_refl _, List.prefix_append _ _⟩
  | copy place => exact ⟨List.prefix_refl _, List.prefix_append _ _⟩
  | executeDraft place spans =>
      simp only [perform]
      cases w.drafts[place]? <;> exact ⟨List.prefix_refl _, List.prefix_refl _⟩
  | execute place spans =>
      simp only [perform]
      cases w.configs[place]? <;> exact ⟨List.prefix_refl _, List.prefix_refl _⟩
  | drive action => exact ⟨List.prefix_refl _, List.prefix_refl _⟩

theorem kept_play (w : Workshop σ φ α) (ds : List (Deed σ φ α)) :
    w.drafts <+: (w.play ds).2.drafts ∧ w.configs <+: (w.play ds).2.configs := by
  induction ds generalizing w with
  | nil => exact ⟨List.prefix_refl _, List.prefix_refl _⟩
  | cons d ds ih =>
      obtain ⟨hdrafts, hconfigs⟩ := w.kept_perform d
      obtain ⟨hdrafts', hconfigs'⟩ := ih (w.perform d).2
      exact ⟨hdrafts.trans hdrafts', hconfigs.trans hconfigs'⟩

/-- Drafts to which the same last values were given are executed alike, whatever is done next. -/
theorem Charted.play_executeDraft (h : Charted w e c) {place place' : Nat}
    {path path' : List (Change σ)} (hpath : c.drafts[place]? = some path)
    (hpath' : c.drafts[place']? = some path')
    (hsame : ∀ s, lastWrite? s path = lastWrite? s path') (spans : List Log.Span)
    (later : List (Deed σ φ α)) :
    w.play (.executeDraft place spans :: later) = w.play (.executeDraft place' spans :: later) := by
  have hperform :
      w.perform (.executeDraft place spans) = w.perform (.executeDraft place' spans) := by
    simp only [Workshop.perform, h.getElem?_drafts, hpath, hpath', Option.map_some,
      launchDraft_follow, e.due_congr hsame]
  rw [play_cons, play_cons, hperform]

/-- To execute a draft is to freeze it and to execute the configuration, which is kept besides. -/
theorem play_freeze_execute {place : Nat} {d : Draft σ φ α Scheduled}
    (hd : w.drafts[place]? = some d) (spans : List Log.Span) :
    w.play [.freeze place, .execute w.configs.length spans] =
      ((w.perform (.executeDraft place spans)).1,
        (w.perform (.executeDraft place spans)).2.keep d.toConfig) := by
  have hplace : (w.configs ++ [d.toConfig])[w.configs.length]? = some d.toConfig :=
    List.getElem?_concat_length
  simp only [play, perform, hd, Option.map_some, Option.toList_some, hplace,
    List.nil_append, List.append_nil]
  rfl

/-- Of the draft that the first stages give, and of all that come from it, others are made in any
order. Drafts are frozen and executed, and runs are driven, at any time. Every draft comes to the
configuration that is due after the calls that have led to it, and every configuration is the one
that was due where it was frozen. What is said, and what happens on the bench, is as if those
configurations had been executed there and nothing else had been done. What was made stays as it
was. Drafts that agree in the last values of all settings have the same runs, calls on different
settings may change places, and a draft is executed as the configuration is that is frozen of it. -/
theorem last_write_wins (e : Essentials σ φ α) (b : Bench σ φ α) (ds : List (Deed σ φ α)) :
    let said := ((opened e.draft b).play ds).1
    let w := ((opened e.draft b).play ds).2
    let c : Chart σ := Chart.first.recordAll ds
    let actions := Chart.first.actions e ds
    (w.drafts.map Draft.toConfig = c.drafts.map e.due ∧ w.configs = c.configs.map e.due ∧
        ∀ path, (e.due path).action ≠ "") ∧
      ((said, w.bench) = b.play actions ∧ w.handles = b.handles actions) ∧
      (∀ later, w.drafts <+: (w.play later).2.drafts ∧ w.configs <+: (w.play later).2.configs) ∧
      (∀ path path', (∀ s, lastWrite? s path = lastWrite? s path') → e.due path = e.due path' ∧
        ∀ place place', c.drafts[place]? = some path → c.drafts[place']? = some path' →
          ∀ spans later, w.play (.executeDraft place spans :: later) =
            w.play (.executeDraft place' spans :: later)) ∧
      (∀ (d : Draft σ φ α Scheduled) (x y : Change σ), x.Apart y →
        (d.change x).change y = (d.change y).change x) ∧
      ∀ place d, w.drafts[place]? = some d → ∀ spans,
        w.play [.freeze place, .execute w.configs.length spans] =
          ((w.perform (.executeDraft place spans)).1,
            (w.perform (.executeDraft place spans)).2.keep d.toConfig) := by
  intro said w c actions
  have hopened := charted_opened e b
  have hcharted : Charted w e c := hopened.play ds
  refine ⟨⟨?_, hcharted.configs, e.action_due_ne⟩, hopened.bench_play ds, w.kept_play, ?_, ?_, ?_⟩
  · rw [hcharted.drafts, List.map_map]
    exact List.map_congr_left fun path _ => e.toConfig_follow path
  · intro path path' hsame
    refine ⟨e.due_congr hsame, fun place place' hpath hpath' => ?_⟩
    exact hcharted.play_executeDraft hpath hpath' hsame
  · intro d x y hapart
    exact d.change_comm hapart
  · intro place d hd spans
    exact play_freeze_execute hd spans

/-- An action without a name that always fails. -/
def unnamed : Essentials Unit Unit Unit where
  action := ""
  operation := ⟨pure (.returned ()), fun _ => pure (.done (.returned (.error (.ofText "down"))))⟩
  check := ⟨pure (.returned false)⟩
  session := "s-1"
  scheduler := 0

def unnamedBench : Bench Unit Unit Unit := ⟨.init (), .init, [.faithful]⟩

/-- A table with one wait. -/
def steady : Backoff := ⟨[.ofSecs 2], List.cons_ne_nil _ _⟩

/-- Two branches start at the first draft. A draft of the one is executed before the calls that undo
its settings are made, and the other one starts after all that. -/
def branchingDeeds : List (Deed Unit Unit Unit) :=
  [.change 0 (.setNotifier ⟨fun _ => pure (.returned ())⟩),
    .change 1 (.setPredicate fun _ => pure (.returned false)), .executeDraft 2 [],
    .change 2 .removeNotifier, .change 3 (.setClassifier .always), .freeze 4,
    .change 0 (.setBackoff steady), .execute 0 [],
    .drive (.tick fun clock _ w => clock.park w), .change 5 .copy, .executeDraft 6 []]

/-- The first draft keeps what it had, and in both branches the last calls count. A copy is executed
as what it is a copy of, and two calls on different settings may change places. -/
theorem last_write_wins_branching :
    let w := ((opened unnamed.draft unnamedBench).play branchingDeeds).2
    w.drafts.map (fun d => (d.toConfig.action, d.toConfig.notifier.isSome,
        d.toConfig.backoff.waits.length)) =
      [("unnamed action", false, 7), ("unnamed action", true, 7), ("unnamed action", true, 7),
        ("unnamed action", false, 7), ("unnamed action", false, 7), ("unnamed action", false, 1),
        ("unnamed action", false, 1)] ∧
      w.bench.roster.runs.map (fun r => r.config.backoff.waits.length) = [7, 7, 1] ∧
      (∀ spans later,
        w.play (.executeDraft 5 spans :: later) = w.play (.executeDraft 6 spans :: later)) ∧
      (unnamed.draft.change .removeNotifier).change (.setClassifier .never) =
        (unnamed.draft.change (.setClassifier .never)).change .removeNotifier ∧
      ∀ spans, (w.play [.freeze 4, .execute 1 spans]).1 =
        (w.perform (.executeDraft 4 spans)).1 := by
  intro w
  obtain ⟨⟨hdrafts, -, -⟩, ⟨hplay, -⟩, -, hsame, hcomm, hexecute⟩ :=
    last_write_wins unnamed unnamedBench branchingDeeds
  refine ⟨?_, ?_, ?_, ?_, ?_⟩
  · have hconfigs := congrArg (List.map fun c : Config Unit Unit Unit =>
      (c.action, c.notifier.isSome, c.backoff.waits.length)) hdrafts
    rw [List.map_map] at hconfigs
    exact hconfigs
  · exact congrArg (fun b : Bench Unit Unit Unit =>
      b.roster.runs.map fun r => r.config.backoff.waits.length) (congrArg Prod.snd hplay)
  · obtain ⟨-, hplaces⟩ := hsame [.setBackoff steady] [.setBackoff steady, .copy]
      (by rintro ⟨⟩ <;> rfl)
    exact hplaces 5 6 rfl rfl
  · exact hcomm _ _ _ (by rintro ⟨⟩ <;> simp [Change.write?])
  · intro spans
    have hlines := congrArg Prod.fst (hexecute 4 _ rfl spans)
    exact hlines

end Workshop

end Reattempt
