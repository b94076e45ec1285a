import Reattempt.Duration.Text
import Reattempt.Backoff.Fibonacci
import Reattempt.Backoff.Written
import Reattempt.Outcome.Expect
import Reattempt.Config.Draft
import Reattempt.Bench
import Reattempt.Scripted.Operation
import Reattempt.Scripted.Probe
import Reattempt.Trial
import Reattempt.Rehearsal.Step
import Reattempt.Main
import Reattempt.Proofs.World.Cancellation
import Reattempt.Proofs.World.Persistence
import Reattempt.Proofs.Run.Failures
import Reattempt.Proofs.World.Failures
import Reattempt.Proofs.World.Rejection
import Reattempt.Proofs.Run.Ledger
import Reattempt.Proofs.Noted.Mirrors
import Reattempt.Proofs.Run.Mute
import Reattempt.Proofs.World.Ledger
import Reattempt.Proofs.World.Mute
import Reattempt.Proofs.Run.Notices
import Reattempt.Proofs.World.Alone
import Reattempt.Proofs.World.Numbers
import Reattempt.Proofs.Bench.Basic
import Reattempt.Proofs.Bench.Simulation
import Reattempt.Proofs.Bench.Records
import Reattempt.Proofs.Bench.Clock
import Reattempt.Proofs.Bench.Independence
import Reattempt.Proofs.Run.Calm
import Reattempt.Proofs.World.Calm
import Reattempt.Proofs.World.Interruption
import Reattempt.Proofs.Backoff.Total
import Reattempt.Proofs.Scheduler.Recorder
import Reattempt.Proofs.Bench.Direct
import Reattempt.Proofs.Time.Timetable
import Reattempt.Proofs.Time.Virtual
import Reattempt.Proofs.Bench.Totals
import Reattempt.Proofs.Run.Farewell
import Reattempt.Proofs.World.Abandonment
import Reattempt.Proofs.World.Spans
import Reattempt.Proofs.Run.Reports
import Reattempt.Proofs.World.Entries
import Reattempt.Proofs.Backoff.Fibonacci
import Reattempt.Proofs.Backoff.Source
import Reattempt.Proofs.Config.Changes
import Reattempt.Proofs.Config.Workshop
