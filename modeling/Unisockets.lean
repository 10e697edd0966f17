import Unisockets.JsStd.Map
import Unisockets.JsStd.Text
import Unisockets.JsStd.FirstGap
import Unisockets.JsStd.Async
import Unisockets.JsStd.Emittery
import Unisockets.Transition.Run
import Unisockets.Transition.Since
import Unisockets.Signaling.Operation
import Unisockets.Signaling.Address
import Unisockets.Signaling.Subnets
import Unisockets.Signaling.Server
import Unisockets.Signaling.ServerTask
import Unisockets.Signaling.ServerBridge
import Unisockets.Signaling.Outcome
import Unisockets.Signaling.ServerRun
import Unisockets.Signaling.WellFormed
import Unisockets.Signaling.Searches
import Unisockets.Signaling.Suffixes
import Unisockets.Signaling.Registry
import Unisockets.Signaling.Ports
import Unisockets.Signaling.RejectedConnect
import Unisockets.Signaling.MalformedAliases
import Unisockets.Signaling.Settle
import Unisockets.Signaling.NoLeak
import Unisockets.Signaling.ClientIds
import Unisockets.Signaling.AliasExclusive
import Unisockets.Signaling.Removal
import Unisockets.Signaling.SignalingClient
import Unisockets.Signaling.Posts
import Unisockets.Signaling.Network
import Unisockets.Signaling.ClientCalls
import Unisockets.Signaling.Numbering
import Unisockets.Signaling.ConnectionAlias
import Unisockets.Signaling.Delivery
import Unisockets.Signaling.AcceptHandshake
import Unisockets.Signaling.AliasOwners
import Unisockets.Signaling.RejectedRequests
import Unisockets.Signaling.AliasTables
import Unisockets.Signaling.OpenAliases
import Unisockets.Signaling.AcceptedConnects
import Unisockets.Signaling.AnsweredRequests
import Unisockets.Signaling.RequestFates
import Unisockets.Signaling.OwnReplies
import Unisockets.Signaling.GreetingMesh
import Unisockets.Transport.Transporter
import Unisockets.Guest.Memory
import Unisockets.Guest.ByteStream
import Unisockets.Guest.Sockets
import Unisockets.Guest.Close
import Unisockets.Transport.Runner
import Unisockets.Transport.Connections
import Unisockets.Transport.RecycledIds
import Unisockets.Transport.Candidates
import Unisockets.Transport.Wiring
import Unisockets.Transport.Stages
import Unisockets.Transport.Signals
import Unisockets.Transport.Pairing
import Unisockets.Transport.StagedRun
import Unisockets.Transport.ChannelPairs
import Unisockets.Guest.Link
import Unisockets.Guest.Separation
import Unisockets.Guest.Isolation
import Unisockets.Guest.Threads
import Unisockets.Guest.Sending
import Unisockets.Guest.ThreadTables
import Unisockets.Transport.Receivers
import Unisockets.Transport.EarlyCandidates
import Unisockets.Signaling.IssuedIds
import Unisockets.JsStd.TypedArray
import Unisockets.Guest.SockAddr
import Unisockets.Guest.Imports
import Unisockets.Guest.CallerBuffers
import Unisockets.Guest.FailedCalls
import Unisockets.Guest.GrowingMemory
import Unisockets.Transport.Closing
import Unisockets.Guest.AllocatedPorts
import Unisockets.Transition.Account
import Unisockets.Transition.Refinement
import Unisockets.JsStd.Utf16
import Unisockets.JsStd.Json
import Unisockets.Signaling.Traffic
import Unisockets.Signaling.Schedules
import Unisockets.Signaling.Programs
import Unisockets.Signaling.Wire
import Unisockets.Signaling.WireNetwork
import Unisockets.Signaling.KeepAlive
import Unisockets.Signaling.Balances
import Unisockets.Transition.Atomic
import Unisockets.Signaling.AtomicCalls
import Unisockets.Signaling.ServerRegistry
import Unisockets.Guest.Descriptors
import Unisockets.Guest.GoBinding
import Unisockets.Signaling.Sessions
import Unisockets.Guest.Transmissions
import Unisockets.Guest.Conversation
import Unisockets.Transport.PassiveSteps
import Unisockets.Transport.Senders
import Unisockets.Transport.SendOrder
