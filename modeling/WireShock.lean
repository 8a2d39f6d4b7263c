import WireShock.Channels.Bookkeeping
import WireShock.Channels.DataFlow
import WireShock.Channels.Enable
import WireShock.Channels.Established
import WireShock.Channels.Framing
import WireShock.Channels.Signalling
import WireShock.Channels.Unopened
import WireShock.Concurrency.Departure
import WireShock.Connections.Delivery
import WireShock.Connections.Mirror
import WireShock.Isolation.Confinement
import WireShock.Ownership.Release
import WireShock.Reception.Events
import WireShock.Reception.PacketShortfall
import WireShock.Reports.Decoding
import WireShock.Requests.Service
import WireShock.Startup.Rejection
import WireShock.Concurrency.Workspaces
import WireShock.Concurrency.OutputReports
import WireShock.Connections.HandleLookup
import WireShock.Reception.RemoteNames
import WireShock.Startup.CommandPackets
import WireShock.Channels.Acceptance
import WireShock.Channels.Unanswered
import WireShock.Channels.Identifiers
import WireShock.Connections.NewChild
import WireShock.Requests.BufferWrites
import WireShock.Requests.FeatureBounds
import WireShock.Requests.Outcomes
import WireShock.Requests.Queries
import WireShock.Requests.Reversal
import WireShock.Requests.WholeReports
import WireShock.Semantics.UsbHost
import WireShock.Ownership.UsbRequests
import WireShock.Startup.PipeSelection
import WireShock.Interaction.Backward
import WireShock.Transport.Transfers
import WireShock.Transport.Amplification
import WireShock.Ownership.PoolLeaks
import WireShock.Requests.Configuration
import WireShock.Startup.Pairing
import WireShock.Isolation.Applications
import WireShock.Channels.Handshakes
import WireShock.Enumeration.Pdos
import WireShock.Isolation.Exposure
import WireShock.Requests.Delivery
import WireShock.Transport.Targets
