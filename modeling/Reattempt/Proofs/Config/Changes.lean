import Mathlib.Data.List.Induction
import Reattempt.Config.Draft

/-! # What a draft comes to

A draft in its last stage is followed by others, each made by one call, and a call gives a value to
one setting at most. So of every setting a draft has the value of the last call that gave one, and
everything else is what the first stages were told. -/

namespace Reattempt.Draft

variable {σ φ α : Type}

/-- The settings that have a value before one is chosen. -/
inductive Setting where
  | notifier
  | classifier
  | backoff

def Setting.Value (σ : Type) : Setting → Type
  | notifier => Option (Notifier σ)
  | classifier => Classifier σ
  | backoff => Backoff

/-- A call that makes a draft of another one. -/
inductive Change (σ : Type) where
  | setNotifier (notifier : Notifier σ)
  | removeNotifier
  | setClassifier (classifier : Classifier σ)
  | setPredicate (predicate : Failure → StateM σ (Reply Bool))
  | setBackoff (backoff : Backoff)
  | copy

/-- The value that a call gives to a setting, if it gives one. -/
def Change.write? : Change σ → (s : Setting) → Option (s.Value σ)
  | setNotifier notifier, .notifier => some (some notifier)
  | removeNotifier, .notifier => some none
  | setClassifier classifier, .classifier => some classifier
  | setPredicate predicate, .classifier => some ⟨predicate⟩
  | setBackoff backoff, .backoff => some backoff
  | _, _ => none

/-- No setting is given a value by both calls. -/
def Change.Apart (x y : Change σ) : Prop := ∀ s, x.write? s = none ∨ y.write? s = none

/-- The last value that some calls give to a setting, if they give one. -/
def lastWrite? (s : Setting) (path : List (Change σ)) : Option (s.Value σ) :=
  (path.filterMap fun x => x.write? s).getLast?

theorem lastWrite?_concat (s : Setting) (path : List (Change σ)) (x : Change σ) :
    lastWrite? s (path ++ [x]) = (x.write? s).or (lastWrite? s path) := by
  rw [lastWrite?, List.filterMap_append, List.getLast?_append, lastWrite?]
  cases hx : x.write? s with
  | none => simp [hx]
  | some v => simp [hx]

/-- The draft that a call makes. -/
def change (d : Draft σ φ α Scheduled) : Change σ → Draft σ φ α Scheduled
  | .setNotifier notifier => d.setNotifier notifier
  | .removeNotifier => d.removeNotifier
  | .setClassifier classifier => d.setClassifier classifier
  | .setPredicate predicate => d.setPredicate predicate
  | .setBackoff backoff => d.setBackoff backoff
  | .copy => d.copy

/-- The draft that is made by one call after the other. -/
def follow (d : Draft σ φ α Scheduled) (path : List (Change σ)) : Draft σ φ α Scheduled :=
  path.foldl change d

theorem follow_concat (d : Draft σ φ α Scheduled) (path : List (Change σ)) (x : Change σ) :
    d.follow (path ++ [x]) = (d.follow path).change x := by
  rw [follow, List.foldl_append]
  rfl

/-- The value that a setting has. -/
def setting (d : Draft σ φ α Scheduled) : (s : Setting) → s.Value σ
  | .notifier => d.notifier
  | .classifier => d.classifier
  | .backoff => d.backoff

/-- What has to be told before there is a draft in its last stage. -/
structure Essentials (σ φ α : Type) where
  action : String
  operation : Operation σ φ α
  check : Check σ
  session : String
  scheduler : Nat

def essentials (d : Draft σ φ α Scheduled) : Essentials σ φ α where
  action := d.action
  operation := d.operation
  check := d.check
  session := d.session
  scheduler := d.stage.scheduler

/-- There is nothing in a draft but what it was told first, and its settings. -/
theorem ext_setting {d d' : Draft σ φ α Scheduled} (he : d.essentials = d'.essentials)
    (hs : ∀ s, d.setting s = d'.setting s) : d = d' := by
  obtain ⟨_, _, _, _, notifier, classifier, backoff, ⟨_⟩⟩ := d
  obtain ⟨_, _, _, _, notifier', classifier', backoff', ⟨_⟩⟩ := d'
  obtain rfl : notifier = notifier' := hs .notifier
  obtain rfl : classifier = classifier' := hs .classifier
  obtain rfl : backoff = backoff' := hs .backoff
  cases he
  rfl

theorem toConfig_eq (d : Draft σ φ α Scheduled) : d.toConfig =
    ⟨d.essentials.action, d.essentials.session, d.essentials.operation, d.essentials.check,
      d.essentials.scheduler, d.setting .notifier, d.setting .classifier, d.setting .backoff⟩ :=
  rfl

/-- A call leaves alone what was told first. -/
@[simp] theorem essentials_change (d : Draft σ φ α Scheduled) (x : Change σ) :
    (d.change x).essentials = d.essentials := by
  cases x <;> rfl

/-- A setting has the value that a call gives it, and otherwise keeps the one that it had. -/
theorem setting_change (d : Draft σ φ α Scheduled) (x : Change σ) (s : Setting) :
    (d.change x).setting s = (x.write? s).getD (d.setting s) := by
  cases x <;> cases s <;> rfl

/-- The order of two calls does not matter if they are about different settings. -/
theorem change_comm (d : Draft σ φ α Scheduled) {x y : Change σ} (h : x.Apart y) :
    (d.change x).change y = (d.change y).change x := by
  apply ext_setting
  · simp only [essentials_change]
  · intro s
    simp only [setting_change]
    obtain hx | hy := h s
    · rw [hx]
      rfl
    · rw [hy]
      rfl

@[simp] theorem essentials_follow (d : Draft σ φ α Scheduled) (path : List (Change σ)) :
    (d.follow path).essentials = d.essentials := by
  induction path using List.reverseRecOn with
  | nil => rfl
  | append_singleton path x ih => rw [follow_concat, essentials_change, ih]

theorem setting_follow (d : Draft σ φ α Scheduled) (path : List (Change σ)) (s : Setting) :
    (d.follow path).setting s = (lastWrite? s path).getD (d.setting s) := by
  induction path using List.reverseRecOn with
  | nil => rfl
  | append_singleton path x ih =>
      rw [follow_concat, setting_change, lastWrite?_concat, ih]
      cases x.write? s <;> rfl

namespace Essentials

variable (e : Essentials σ φ α)

/-- The draft that comes out of the first stages. -/
def draft : Draft σ φ α Scheduled :=
  ((ofAction e.action e.operation e.check).forSession e.session).onScheduler e.scheduler

/-- The configuration that is due after some calls: each setting has the last value that they give
to it. Where they give none there is no notifier, all failures are worth another attempt, and the
waits are the usual ones. -/
def due (path : List (Change σ)) : Config σ φ α where
  action := if e.action = "" then "unnamed action" else e.action
  session := e.session
  operation := e.operation
  check := e.check
  scheduler := e.scheduler
  notifier := (lastWrite? .notifier path).getD none
  classifier := (lastWrite? .classifier path).getD .always
  backoff := (lastWrite? .backoff path).getD .standard

theorem action_due_ne (path : List (Change σ)) : (e.due path).action ≠ "" := by
  by_cases h : e.action = ""
  · simp [due, h]
  · simp [due, h]

theorem due_congr {path path' : List (Change σ)}
    (h : ∀ s, lastWrite? s path = lastWrite? s path') : e.due path = e.due path' := by
  simp only [due, h]

/-- A draft comes to what is due after the calls that have led to it. -/
theorem toConfig_follow (path : List (Change σ)) :
    (e.draft.follow path).toConfig = e.due path := by
  rw [toConfig_eq, essentials_follow]
  simp only [setting_follow]
  rfl

end Essentials

end Reattempt.Draft
