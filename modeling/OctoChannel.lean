import OctoChannel.Foundation.Dict
import OctoChannel.Foundation.Text
import OctoChannel.Foundation.Json
import OctoChannel.Foundation.JsonLoads
import OctoChannel.Foundation.JsonRoundTrip
import OctoChannel.Foundation.JsonEncodable
import OctoChannel.Foundation.Generations
import OctoChannel.Foundation.Framing
import OctoChannel.Foundation.Layout
import OctoChannel.Foundation.Runs
import OctoChannel.Foundation.Readers
import OctoChannel.Foundation.Doubles
import OctoChannel.Foundation.Utf16
import OctoChannel.Foundation.Splice
import OctoChannel.Foundation.JsonNodes
import OctoChannel.Foundation.ByteSizes
import OctoChannel.Foundation.Marks
import OctoChannel.Foundation.Sections
import OctoChannel.Identity.Ids
import OctoChannel.Identity.Registry
import OctoChannel.Identity.Snapshot
import OctoChannel.Identity.Invariant
import OctoChannel.Identity.Restore
import OctoChannel.Identity.SnapshotJson
import OctoChannel.Identity.Reachable
import OctoChannel.Identity.Plan
import OctoChannel.Identity.Ownership
import OctoChannel.Identity.Reservation
import OctoChannel.Identity.Behaviour
import OctoChannel.Identity.Documents
import OctoChannel.Identity.Crowding
import OctoChannel.Identity.Eviction
import OctoChannel.Identity.Bounds
import OctoChannel.Identity.Recovery
import OctoChannel.Identity.Durability
import OctoChannel.Identity.RoundTrip
import OctoChannel.Identity.StateStore
import OctoChannel.Identity.Phases
import OctoChannel.Protocol.Frames
import OctoChannel.Protocol.Packets
import OctoChannel.Protocol.Headers
import OctoChannel.Protocol.Layouts
import OctoChannel.Protocol.WireRoundTrip
import OctoChannel.Adapter.Connection
import OctoChannel.Adapter.Outbound
import OctoChannel.Adapter.Migration
import OctoChannel.Adapter.MigrationRuns
import OctoChannel.Adapter.RouteFlush
import OctoChannel.Adapter.RoutesKept
import OctoChannel.Adapter.Traffic
import OctoChannel.Adapter.Replaying
import OctoChannel.Adapter.Claims
import OctoChannel.Adapter.Reconnect
import OctoChannel.Adapter.Retries
import OctoChannel.Cards.Actions
import OctoChannel.Cards.Poller
import OctoChannel.Cards.CursorSafety
import OctoChannel.Cards.Sessions
import OctoChannel.Cards.Registering
import OctoChannel.Cards.Capacity
import OctoChannel.Cards.Bindings
import OctoChannel.Cards.BindingRoundTrip
import OctoChannel.Cards.Numbers
import OctoChannel.Cards.Dispatch
import OctoChannel.Cards.Leaks
import OctoChannel.Cards.AtMostOnce
import OctoChannel.Cards.Attempts
import OctoChannel.Cards.Duplicates
import OctoChannel.Rendering.Texts
import OctoChannel.Rendering.Limits
import OctoChannel.Rendering.Interactive
import OctoChannel.Rendering.Binding
import OctoChannel.Rendering.Submission
import OctoChannel.Rendering.Budgets
import OctoChannel.Rendering.Submitting
import OctoChannel.Rendering.Phases
import OctoChannel.Rendering.Outline
import OctoChannel.Rendering.Thinking
import OctoChannel.Rendering.Trace
import OctoChannel.Progress.Turns
import OctoChannel.Progress.Controller
import OctoChannel.Progress.Drain
import OctoChannel.Progress.Table
import OctoChannel.Progress.Reachable
import OctoChannel.Progress.Stranding
import OctoChannel.Progress.Apart
import OctoChannel.Progress.Successors
import OctoChannel.Progress.Segments
import OctoChannel.Chats.ChannelIds
import OctoChannel.Chats.Caches
import OctoChannel.Chats.DirectMessages
import OctoChannel.Chats.Tasks
import OctoChannel.Chats.Scheduling
import OctoChannel.Chats.WriteBack
import OctoChannel.Chats.Gate
import OctoChannel.Chats.Prefetch
import OctoChannel.Transport.Guard
import OctoChannel.Transport.Downloads
import OctoChannel.Transport.Hosts
import OctoChannel.Transport.Permitted
import OctoChannel.Mentions.Patterns
import OctoChannel.Mentions.Conversion
import OctoChannel.Mentions.EntityRanges
import OctoChannel.Mentions.Lossless
import OctoChannel.Mentions.Envelopes
import OctoChannel.Mentions.Outbound
import OctoChannel.Mentions.Pointing
import OctoChannel.Mentions.Fallback
import OctoChannel.Foundation.Traced
import OctoChannel.Tools.Permission
import OctoChannel.Tools.Management
import OctoChannel.Tools.Authorisation
import OctoChannel.Foundation.Escaping
import OctoChannel.Rendering.Frozen
import OctoChannel.Rendering.Staying
import OctoChannel.Menu.Publishing
import OctoChannel.Foundation.Outcomes
import OctoChannel.Inbound.Content
import OctoChannel.Identity.Shards
import OctoChannel.Media.Dimensions
import OctoChannel.Chats.SharedGroups
import OctoChannel.Foundation.Codecs
import OctoChannel.Media.DataUri
import OctoChannel.Identity.Forgetting
import OctoChannel.Identity.Tokens
import OctoChannel.Adapter.Standalone
import OctoChannel.Foundation.Base64
import OctoChannel.Protocol.Encryption
import OctoChannel.Adapter.SecureChannel
import OctoChannel.Menu.Reconciling
import OctoChannel.Adapter.Replies
import OctoChannel.Foundation.JsonSpaced
import OctoChannel.Inbound.History
import OctoChannel.Inbound.Attachments
import OctoChannel.Inbound.Delivering
import OctoChannel.Media.LocalFiles
import OctoChannel.Transport.Reaching
import OctoChannel.Transport.Uploads
import OctoChannel.Media.Sending
import OctoChannel.Media.Shown
import OctoChannel.Tools.CardLive
import OctoChannel.Adapter.CardTurns
