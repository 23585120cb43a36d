import OutageWatch.Report.Reader
import OutageWatch.Main
import OutageWatch.Proofs.Downtimes.Boundaries
import OutageWatch.Proofs.Downtimes.Changes
import OutageWatch.Proofs.Tracker.Calls
import OutageWatch.Proofs.Tracker.History
import OutageWatch.Proofs.Downtimes.Coverage
import OutageWatch.Proofs.Tracker.Liveness
import OutageWatch.Proofs.Tracker.Union
import OutageWatch.Proofs.Monitor.Course
import OutageWatch.Proofs.Monitor.Following
import OutageWatch.Proofs.Monitor.Refinement
import OutageWatch.Proofs.Downtimes.Window
import OutageWatch.Proofs.Downtimes.Growth
import OutageWatch.Proofs.Tracker.Window
import OutageWatch.Proofs.Tracker.Growth
import OutageWatch.Proofs.Monitor.Reports
import OutageWatch.Proofs.Monitor.Cancellation
import OutageWatch.Proofs.Json.Grammar
import OutageWatch.Proofs.Tracker.Separation
import OutageWatch.Proofs.Json.Numerals
import OutageWatch.Proofs.Json.Decoding
import OutageWatch.Proofs.Json.Uniqueness
import OutageWatch.Proofs.Json.Structures
import OutageWatch.Proofs.Json.Values
import OutageWatch.Proofs.Text.Utf8
import OutageWatch.Proofs.Json.Writing
import OutageWatch.Proofs.Report.Decoding
import OutageWatch.Proofs.Report.RoundTrip
import OutageWatch.Proofs.Json.Pointers
import OutageWatch.Proofs.Cluster.Schemas
import OutageWatch.Proofs.Cluster.Documents
import OutageWatch.Proofs.Cluster.Items
import OutageWatch.Proofs.Cluster.Replies
import OutageWatch.Proofs.Cluster.Snapshots
import OutageWatch.Proofs.Cluster.Timestamps
import OutageWatch.Proofs.Cluster.Listings
import OutageWatch.Proofs.Cluster.Observation
import OutageWatch.Proofs.Tracker.Stuttering
import OutageWatch.Proofs.Tracker.Scope
import OutageWatch.Proofs.Monitor.Starting
import OutageWatch.Proofs.Downtimes.Marks
import OutageWatch.Proofs.Query.Rounds
import OutageWatch.Proofs.Query.Isolation
import OutageWatch.Proofs.Cluster.ScaledDown
import OutageWatch.Proofs.Store.FilePaths
import OutageWatch.Proofs.Downtimes.Accounts
import OutageWatch.Proofs.Tracker.Accounts
import OutageWatch.Proofs.Faults
import OutageWatch.Proofs.Config.Slots
import OutageWatch.Proofs.Config.Flags
import OutageWatch.Proofs.Yaml.Aliases
import OutageWatch.Proofs.Yaml.Quoting
import OutageWatch.Proofs.Yaml.QuotedFile
import OutageWatch.Proofs.Config.Entries
import OutageWatch.Proofs.Config.Layering
