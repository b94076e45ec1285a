import Reattempt.Config.Basic

/-!
# Drafts of configurations

A configuration is drafted in three stages: the action, then the session of the client, then the
scheduler. Only after the last one can the optional settings be chosen, in any order; of several
choices of one setting the last one counts. Every step makes a new draft, so earlier ones can be
used again.
-/

namespace Reattempt

/-- The first stage: the session is still to be named. -/
structure Unassigned where

/-- The second stage: the scheduler is still to be chosen. -/
structure Unscheduled where

/-- The last stage, with the number of the scheduler. -/
structure Scheduled where
  scheduler : Nat

/-- A configuration in the making. -/
structure Draft (σ φ α stage : Type) where
  action : String
  session : String
  operation : Operation σ φ α
  check : Check σ
  notifier : Option (Notifier σ)
  classifier : Classifier σ
  backoff : Backoff
  stage : stage

namespace Draft

variable {σ φ α stage next : Type}

/-- The name of an action that was given none. -/
def defaultAction : String := "unnamed action"

/-- The name under which an action appears. It is never empty. -/
def actionName (action : String) : String := if action = "" then defaultAction else action

/-- Starts to configure an action that is retried. -/
def ofAction (action : String) (operation : Operation σ φ α) (check : Check σ) :
    Draft σ φ α Unassigned where
  action := actionName action
  session := ""
  operation := operation
  check := check
  notifier := none
  classifier := .standard
  backoff := .standard
  stage := ⟨⟩

/-- The settings of a draft, in another stage. -/
def advance (d : Draft σ φ α stage) (newStage : next) : Draft σ φ α next where
  action := d.action
  session := d.session
  operation := d.operation
  check := d.check
  notifier := d.notifier
  classifier := d.classifier
  backoff := d.backoff
  stage := newStage

def copy (d : Draft σ φ α stage) : Draft σ φ α stage := d.advance d.stage

/-- Names the session of the client that runs belong to. -/
def forSession (d : Draft σ φ α Unassigned) (session : String) : Draft σ φ α Unscheduled :=
  { d.advance (⟨⟩ : Unscheduled) with session := session }

/-- Chooses the scheduler that runs are driven by. -/
def onScheduler (d : Draft σ φ α Unscheduled) (scheduler : Nat) : Draft σ φ α Scheduled :=
  d.advance ⟨scheduler⟩

/-- Chooses the scheduler that surrounds the caller, if there is one. -/
def onCurrent (d : Draft σ φ α Unscheduled) (current : Option Nat) :
    Except ConfigError (Draft σ φ α Scheduled) :=
  match current with
  | none => .error .noScheduler
  | some scheduler => .ok (d.onScheduler scheduler)

/-- Shows the cause of every failed attempt to `notifier`. -/
def setNotifier (d : Draft σ φ α Scheduled) (notifier : Notifier σ) : Draft σ φ α Scheduled :=
  { d.copy with notifier := some notifier }

def removeNotifier (d : Draft σ φ α Scheduled) : Draft σ φ α Scheduled :=
  { d.copy with notifier := none }

def setClassifier (d : Draft σ φ α Scheduled) (classifier : Classifier σ) :
    Draft σ φ α Scheduled :=
  { d.copy with classifier := classifier }

def setPredicate (d : Draft σ φ α Scheduled) (predicate : Failure → StateM σ (Reply Bool)) :
    Draft σ φ α Scheduled :=
  d.setClassifier ⟨predicate⟩

def setBackoff (d : Draft σ φ α Scheduled) (backoff : Backoff) : Draft σ φ α Scheduled :=
  { d.copy with backoff := backoff }

/-- The configuration with the settings of a draft. -/
def toConfig (d : Draft σ φ α Scheduled) : Config σ φ α where
  action := d.action
  session := d.session
  operation := d.operation
  check := d.check
  scheduler := d.stage.scheduler
  notifier := d.notifier
  classifier := d.classifier
  backoff := d.backoff

/-- The shape of a draft, given the shape of its stage. -/
def shape (d : Draft σ φ α stage) (stageShape : Shape) : Shape :=
  .record "RetryBuilder"
    [("action", .quoted d.action), ("session_id", .quoted d.session),
      ("notifier", .option (d.notifier.map Notifier.shape)), ("classifier", d.classifier.shape),
      ("backoff", d.backoff.shape), ("stage", stageShape)] false

end Draft

def Unassigned.shape (_ : Unassigned) : Shape := .atom "NeedsSession"

def Unscheduled.shape (_ : Unscheduled) : Shape := .atom "NeedsScheduler"

def Scheduled.shape (_ : Scheduled) : Shape := .hidden "Ready"

end Reattempt
