import Rehearsal.Main
import Rehearsal.Proofs.Activity.Sequence
import Rehearsal.Proofs.Catalog.AuthoredOrder
import Rehearsal.Proofs.CommandLine.Verdict
import Rehearsal.Proofs.Comparison.Coherence
import Rehearsal.Proofs.Failure.QuotedContent
import Rehearsal.Proofs.HandleTable.History
import Rehearsal.Proofs.Locator.Quoting
import Rehearsal.Proofs.Number.SecondsText
import Rehearsal.Proofs.Record.Acceptance
import Rehearsal.Proofs.Record.Canonical
import Rehearsal.Proofs.Record.Malformed
import Rehearsal.Proofs.Scenario.Accounting
import Rehearsal.Proofs.Scenario.Bounds
import Rehearsal.Proofs.Scenario.Branching
import Rehearsal.Proofs.Scenario.Closing
import Rehearsal.Proofs.Scenario.Consuming
import Rehearsal.Proofs.Scenario.Course
import Rehearsal.Proofs.Scenario.Deciding
import Rehearsal.Proofs.Scenario.Echoes
import Rehearsal.Proofs.Scenario.FailedStart
import Rehearsal.Proofs.Scenario.Invisibility
import Rehearsal.Proofs.Scenario.Isolation
import Rehearsal.Proofs.Scenario.Journey
import Rehearsal.Proofs.Scenario.LostSession
import Rehearsal.Proofs.Scenario.Onward
import Rehearsal.Proofs.Scenario.Outliving
import Rehearsal.Proofs.Scenario.Producing
import Rehearsal.Proofs.Scenario.Recovery
import Rehearsal.Proofs.Scenario.References
import Rehearsal.Proofs.Scenario.RowChecks
import Rehearsal.Proofs.Scenario.RowHandles
import Rehearsal.Proofs.Scenario.RowPlaces
import Rehearsal.Proofs.Scenario.RowReplay
import Rehearsal.Proofs.Scenario.Seeking
import Rehearsal.Proofs.Scenario.Snapshots
import Rehearsal.Proofs.Scenario.Subscriptions
import Rehearsal.Proofs.Script.Numbering
import Rehearsal.Proofs.Script.Ordering
import Rehearsal.Proofs.Template.Refilling
import Rehearsal.Proofs.Text.LoweredSearch
import Rehearsal.Proofs.Time.PollBudget
import Rehearsal.Proofs.Time.RetryBudget
import Rehearsal.Proofs.Time.RetryHistory
import Rehearsal.Proofs.Time.RetryOutcome
import Rehearsal.Proofs.World.CallLog
import Rehearsal.Simulation.Tape
