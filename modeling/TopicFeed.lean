import TopicFeed.Broker
import TopicFeed.Checkpoint.Blob
import TopicFeed.Checkpoint.Format
import TopicFeed.Checkpoint.Layout
import TopicFeed.Collection.OrderedMap
import TopicFeed.Collection.OrderedSet
import TopicFeed.Cursor.Position
import TopicFeed.Cursor.Stop
import TopicFeed.Dialogue
import TopicFeed.Duration
import TopicFeed.Duration.Parser
import TopicFeed.Enumerator.Assignment
import TopicFeed.Enumerator.Basic
import TopicFeed.Enumerator.Discovery
import TopicFeed.Enumerator.State
import TopicFeed.Failure
import TopicFeed.Json.Description
import TopicFeed.Json.Form
import TopicFeed.Json.Parser
import TopicFeed.Json.Printer
import TopicFeed.Json.Split
import TopicFeed.Json.Token
import TopicFeed.Json.Value
import TopicFeed.KeySpace.Layout
import TopicFeed.KeySpace.Range
import TopicFeed.KeySpace.Tiling
import TopicFeed.Message
import TopicFeed.Pattern.Automaton
import TopicFeed.Pattern.Bracket
import TopicFeed.Pattern.Encoding
import TopicFeed.Pattern.Escape
import TopicFeed.Pattern.Flags
import TopicFeed.Pattern.Match
import TopicFeed.Pattern.Parser
import TopicFeed.Pattern.Property
import TopicFeed.Pattern.Regex
import TopicFeed.Reader.Acknowledger
import TopicFeed.Reader.Records
import TopicFeed.Reader.SourceReader
import TopicFeed.Reader.SplitReader
import TopicFeed.Selection
import TopicFeed.Settings.Basic
import TopicFeed.Settings.Configuration
import TopicFeed.Settings.Fault
import TopicFeed.Settings.Fields
import TopicFeed.Settings.File
import TopicFeed.Source
import TopicFeed.Split
import TopicFeed.Text.Blank
import TopicFeed.Text.Hex
import TopicFeed.Toml.Parser
import TopicFeed.Toml.Table
import TopicFeed.Toml.Text
import TopicFeed.Toml.Value
import TopicFeed.Toml.Word
import TopicFeed.Topic.Name
import TopicFeed.Topic.Partition
import TopicFeed.Unicode.Age
import TopicFeed.Unicode.Category
import TopicFeed.Unicode.CharSet
import TopicFeed.Unicode.Fold
import TopicFeed.Unicode.Name
import TopicFeed.Unicode.Property
import TopicFeed.Unicode.Script
import TopicFeed.Unicode.Segmentation
import TopicFeed.Proofs.Dialogue
import TopicFeed.Proofs.Reader.Transcript
import TopicFeed.Proofs.Reader.Batch
import TopicFeed.Proofs.Reader.Session
import TopicFeed.Proofs.Reader.StopLaw
import TopicFeed.Proofs.Reader.Loss
import TopicFeed.Proofs.Enumerator.Operations
import TopicFeed.Proofs.Enumerator.Coordinator
import TopicFeed.Proofs.Enumerator.Accounting
import TopicFeed.Proofs.Checkpoint.RoundTrip
import TopicFeed.Proofs.Reader.Delivery
import TopicFeed.Proofs.Reader.Resume
import TopicFeed.Proofs.Reader.Settlement
import TopicFeed.Proofs.Reader.Memory
import TopicFeed.Proofs.Checkpoint.Faithful
import TopicFeed.Proofs.Checkpoint.Reading
import TopicFeed.Proofs.Topic.Name
import TopicFeed.Proofs.Topic.Spelling
import TopicFeed.Proofs.Checkpoint.Truncation
import TopicFeed.Proofs.Checkpoint.Upgrade
import TopicFeed.Proofs.Checkpoint.Validity
import TopicFeed.Proofs.Enumerator.Flow
import TopicFeed.Proofs.Enumerator.Restore
import TopicFeed.Proofs.Enumerator.Retirement
import TopicFeed.Proofs.Enumerator.Exhaustion
import TopicFeed.Proofs.Enumerator.Lifecycle
import TopicFeed.Proofs.Enumerator.Completion
import TopicFeed.Proofs.Enumerator.Signal
import TopicFeed.Proofs.Collection
import TopicFeed.Proofs.KeySpace.Tiling
import TopicFeed.Proofs.KeySpace.Sharing
import TopicFeed.Proofs.Enumerator.Shares
import TopicFeed.Proofs.Enumerator.Serial
import TopicFeed.Proofs.Enumerator.Atomicity
import TopicFeed.Proofs.Enumerator.Coverage
import TopicFeed.Proofs.Reader.Lifecycle
import TopicFeed.Proofs.Reader.Holdings
import TopicFeed.Proofs.Reader.Custody
import TopicFeed.Proofs.Reader.Retention
import TopicFeed.Proofs.Reader.Restart
import TopicFeed.Proofs.Reader.Boundary
import TopicFeed.Proofs.Reader.Timing
import TopicFeed.Proofs.Reader.Budget
import TopicFeed.Proofs.Reader.Throttle
import TopicFeed.Proofs.Selection.Request
import TopicFeed.Proofs.Selection.Identity
import TopicFeed.Proofs.Selection.Union
import TopicFeed.Proofs.Selection.Listing
import TopicFeed.Proofs.Enumerator.Start
import TopicFeed.Proofs.KeySpace.Acceptance
import TopicFeed.Proofs.Turns
import TopicFeed.Proofs.Enumerator.Dealing
import TopicFeed.Proofs.Enumerator.Balance
import TopicFeed.Proofs.Enumerator.Ownership
import TopicFeed.Proofs.Enumerator.Loyalty
import TopicFeed.Proofs.Reader.Rotation
import TopicFeed.Proofs.KeySpace.Evenness
import TopicFeed.Proofs.Selection.Single
import TopicFeed.Proofs.Reader.Intake
