import NodeCanvas.Client.Debug
import NodeCanvas.Client.Execution
import NodeCanvas.Client.Graph
import NodeCanvas.Client.View
import NodeCanvas.Inspect
import NodeCanvas.Main
import NodeCanvas.Proofs.Addressing
import NodeCanvas.Proofs.Announced
import NodeCanvas.Proofs.Backend
import NodeCanvas.Proofs.Bag
import NodeCanvas.Proofs.Bookkeeping
import NodeCanvas.Proofs.Calendar
import NodeCanvas.Proofs.Cascade
import NodeCanvas.Proofs.ChangeReports
import NodeCanvas.Proofs.Closed
import NodeCanvas.Proofs.Comparison
import NodeCanvas.Proofs.Convergence
import NodeCanvas.Proofs.Debounce
import NodeCanvas.Proofs.Decoding
import NodeCanvas.Proofs.Echo
import NodeCanvas.Proofs.EventLog
import NodeCanvas.Proofs.Evolution
import NodeCanvas.Proofs.FailedDocuments
import NodeCanvas.Proofs.Following
import NodeCanvas.Proofs.Framing
import NodeCanvas.Proofs.Gestures
import NodeCanvas.Proofs.Graph
import NodeCanvas.Proofs.HighlightLifetime
import NodeCanvas.Proofs.Identity
import NodeCanvas.Proofs.Imported
import NodeCanvas.Proofs.Integrity
import NodeCanvas.Proofs.Interchange
import NodeCanvas.Proofs.Interleaving
import NodeCanvas.Proofs.KeyedIds
import NodeCanvas.Proofs.LastWriter
import NodeCanvas.Proofs.LateDelivery
import NodeCanvas.Proofs.LatestEvents
import NodeCanvas.Proofs.Leads
import NodeCanvas.Proofs.Listing
import NodeCanvas.Proofs.LockStep
import NodeCanvas.Proofs.Magnitude
import NodeCanvas.Proofs.Merging
import NodeCanvas.Proofs.Mirror
import NodeCanvas.Proofs.Noted
import NodeCanvas.Proofs.Operation
import NodeCanvas.Proofs.Origins
import NodeCanvas.Proofs.OverlappingSaves
import NodeCanvas.Proofs.OverlappingUpdates
import NodeCanvas.Proofs.Overtaking
import NodeCanvas.Proofs.OwedClears
import NodeCanvas.Proofs.Patching
import NodeCanvas.Proofs.Program
import NodeCanvas.Proofs.Provenance
import NodeCanvas.Proofs.Push
import NodeCanvas.Proofs.PushIdentity
import NodeCanvas.Proofs.Queue
import NodeCanvas.Proofs.Reachable
import NodeCanvas.Proofs.Readers
import NodeCanvas.Proofs.Rebuild
import NodeCanvas.Proofs.Refusal
import NodeCanvas.Proofs.Reimport
import NodeCanvas.Proofs.Repetition
import NodeCanvas.Proofs.Replay
import NodeCanvas.Proofs.Republish
import NodeCanvas.Proofs.RestoredView
import NodeCanvas.Proofs.Restoring
import NodeCanvas.Proofs.RoundTrip
import NodeCanvas.Proofs.SavedState
import NodeCanvas.Proofs.Saving
import NodeCanvas.Proofs.Section
import NodeCanvas.Proofs.Settled
import NodeCanvas.Proofs.ShownEvents
import NodeCanvas.Proofs.SpanBounds
import NodeCanvas.Proofs.StepLog
import NodeCanvas.Proofs.SteppingThrough
import NodeCanvas.Proofs.StopAll
import NodeCanvas.Proofs.Subscribers
import NodeCanvas.Proofs.Table
import NodeCanvas.Proofs.TextValues
import NodeCanvas.Proofs.UrlPaths
import NodeCanvas.Proofs.ViewportLaws
import NodeCanvas.Proofs.VisibleBindings
import NodeCanvas.Proofs.Worlds
import NodeCanvas.Proofs.Written
import NodeCanvas.Push.Address
import NodeCanvas.Push.Listener
import NodeCanvas.Remote.Exchange
import NodeCanvas.Session
import NodeCanvas.Settings.Sources
