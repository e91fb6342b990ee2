import BranchChat.Calendar.Date
import BranchChat.Calendar.Reader
import BranchChat.Calendar.Timestamp
import BranchChat.Client.Basic
import BranchChat.Client.Chat
import BranchChat.Client.Request
import BranchChat.Client.Turn
import BranchChat.Command.Arguments
import BranchChat.Command.Invocation
import BranchChat.Command.Program
import BranchChat.Conversation.Message
import BranchChat.Conversation.Record
import BranchChat.Conversation.Tree
import BranchChat.Conversation.Workspace
import BranchChat.Display.Block
import BranchChat.Display.Lines
import BranchChat.Display.Listing
import BranchChat.Display.LiveArea
import BranchChat.Execution.Activation
import BranchChat.Execution.Basic
import BranchChat.Execution.Fold
import BranchChat.Execution.FrameGate
import BranchChat.Files.Path
import BranchChat.Files.Store
import BranchChat.Json.Meaning
import BranchChat.Json.Printer
import BranchChat.Json.Raw
import BranchChat.Json.Record
import BranchChat.Json.Value
import BranchChat.Locations
import BranchChat.LogFilter
import BranchChat.LogFolder
import BranchChat.Main
import BranchChat.Numeral.Binary64
import BranchChat.Numeral.Shortest
import BranchChat.Session.Credential
import BranchChat.Settings
import BranchChat.Stream.Connection
import BranchChat.Stream.Event
import BranchChat.Stream.Framing
import BranchChat.Text.Alphanumeric
import BranchChat.Text.Blank
import BranchChat.Text.Canonical
import BranchChat.Text.Composite
import BranchChat.Text.Mark
import BranchChat.Text.Percent
import BranchChat.Text.Rows
import BranchChat.Text.Split
import BranchChat.Text.Table
import BranchChat.Text.Utf8
import BranchChat.Toml.Document
import BranchChat.Toml.Quoted
import BranchChat.Toml.Reader
import BranchChat.Toml.Scalar
import BranchChat.Web.ApiError
import BranchChat.Web.Backend
import BranchChat.Web.Domain.Direction
import BranchChat.Web.Domain.Joining
import BranchChat.Web.Domain.Letters
import BranchChat.Web.Domain.Name
import BranchChat.Web.Domain.Punycode
import BranchChat.Web.Exchange
import BranchChat.Web.Url.Basic
import BranchChat.Web.Url.Encoding
import BranchChat.Web.Url.Host
import BranchChat.Web.Url.Reader
import BranchChat.Web.Url.Trail
import BranchChat.Proofs.Entries
import BranchChat.Proofs.Execution.Runs
import BranchChat.Proofs.Stream.Kinds
import BranchChat.Proofs.Execution.Activations
import BranchChat.Proofs.Execution.Gates
import BranchChat.Proofs.Execution.Serials
import BranchChat.Proofs.Execution.Coalescing
import BranchChat.Proofs.Stream.Lines
import BranchChat.Proofs.Stream.Chunks
import BranchChat.Proofs.Stream.Arrivals
import BranchChat.Proofs.Stream.Delivery
import BranchChat.Proofs.Client.Aborting
import BranchChat.Proofs.Client.Marks
import BranchChat.Proofs.Client.Opening
import BranchChat.Proofs.Execution.Signals
import BranchChat.Proofs.Client.Deliveries
import BranchChat.Proofs.Client.TurnOutcome
import BranchChat.Proofs.Conversation.Links
import BranchChat.Proofs.Conversation.Partition
import BranchChat.Proofs.Conversation.Ancestry
import BranchChat.Proofs.Conversation.Paths
import BranchChat.Proofs.Conversation.Newest
import BranchChat.Proofs.Calendar.Order
import BranchChat.Proofs.Conversation.Leaves
import BranchChat.Proofs.Conversation.Switching
import BranchChat.Proofs.Execution.Questions
import BranchChat.Proofs.Client.Steady
import BranchChat.Proofs.Client.Turns
import BranchChat.Proofs.Client.Updates
import BranchChat.Proofs.Client.Sending
import BranchChat.Proofs.Client.Decisions
import BranchChat.Proofs.Chat.Steps
import BranchChat.Proofs.Chat.Prompts
import BranchChat.Proofs.Chat.Conclusions
import BranchChat.Proofs.Json.Equality
import BranchChat.Proofs.Json.Members
import BranchChat.Proofs.Stream.Spellings
import BranchChat.Proofs.Execution.Frames
import BranchChat.Proofs.Execution.Work
import BranchChat.Proofs.Execution.Completions
import BranchChat.Proofs.Execution.Histories
import BranchChat.Proofs.Execution.Stages
import BranchChat.Proofs.Execution.Archives
import BranchChat.Proofs.Client.Browsing
import BranchChat.Proofs.Client.Failures
import BranchChat.Proofs.Client.Refusals
import BranchChat.Proofs.Execution.Ended
import BranchChat.Proofs.Execution.Beginnings
import BranchChat.Proofs.Execution.Identifiers
import BranchChat.Proofs.Stream.Containment
import BranchChat.Proofs.Execution.Losses
import BranchChat.Proofs.Text.Encoding
import BranchChat.Proofs.Json.Strings
import BranchChat.Proofs.Calendar.Reading
import BranchChat.Proofs.Json.Printing
import BranchChat.Proofs.Conversation.Wire
import BranchChat.Proofs.Session.Sharing
import BranchChat.Proofs.Execution.Likeness
import BranchChat.Proofs.Client.Forgetting
import BranchChat.Proofs.Display.Terminal
import BranchChat.Proofs.Display.Redrawing
import BranchChat.Proofs.Display.Rows
import BranchChat.Proofs.Client.Reconciling
import BranchChat.Proofs.Files.Listings
import BranchChat.Proofs.Calendar.Days
import BranchChat.Proofs.LogFolder.DailyNames
import BranchChat.Proofs.LogFolder.Retention
import BranchChat.Proofs.LogFolder.Preparing
import BranchChat.Proofs.Text.Percent
import BranchChat.Proofs.Web.Trails
import BranchChat.Proofs.Web.Authorities
import BranchChat.Proofs.Web.Extending
import BranchChat.Proofs.Web.Steps
import BranchChat.Proofs.Web.Endpoints
import BranchChat.Proofs.Client.Targets
