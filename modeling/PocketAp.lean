import PocketAp.Base.Delimited
import PocketAp.Base.Exec
import PocketAp.Base.Failover
import PocketAp.Base.Frames
import PocketAp.Base.GoError
import PocketAp.Base.GoLib
import PocketAp.Base.HeaderMap
import PocketAp.Base.History
import PocketAp.Base.HostPort
import PocketAp.Base.JSON
import PocketAp.Base.JSONText
import PocketAp.Base.Machine
import PocketAp.Base.Memo
import PocketAp.Base.NetURL
import PocketAp.Base.Parser
import PocketAp.Base.ScanLaws
import PocketAp.Base.Scanner
import PocketAp.Base.Shared
import PocketAp.Base.Shuffle
import PocketAp.Base.Slices
import PocketAp.Base.Text
import PocketAp.Base.Tokens
import PocketAp.Base.Uniform
import PocketAp.Cmd.Call
import PocketAp.Cmd.Compare
import PocketAp.Cmd.Fronts
import PocketAp.Cmd.Serve
import PocketAp.Cmd.Startup
import PocketAp.Cmd.Wiring
import PocketAp.Config.Config
import PocketAp.Domain.Domain
import PocketAp.Domain.Hosts
import PocketAp.Domain.Patterns
import PocketAp.Domain.Supplier
import PocketAp.Health.Health
import PocketAp.Health.Readiness
import PocketAp.Health.Sessions
import PocketAp.Health.Stats
import PocketAp.Pocket.Billing
import PocketAp.Pocket.Caps
import PocketAp.Pocket.Conns
import PocketAp.Pocket.Delegation
import PocketAp.Pocket.DialTarget
import PocketAp.Pocket.Frames
import PocketAp.Pocket.GRPC
import PocketAp.Pocket.GRPCAuto
import PocketAp.Pocket.GRPCWeb
import PocketAp.Pocket.PubKeys
import PocketAp.Pocket.RingCache
import PocketAp.Pocket.Rotation
import PocketAp.Pocket.Sender
import PocketAp.Pocket.Session
import PocketAp.Pocket.Signer
import PocketAp.Pocket.TargetURL
import PocketAp.Pocket.Validate
import PocketAp.Pocket.WebTarget
import PocketAp.Relay.Agreement
import PocketAp.Relay.Attempts
import PocketAp.Relay.Blame
import PocketAp.Relay.Bridge
import PocketAp.Relay.Closing
import PocketAp.Relay.Delivery
import PocketAp.Relay.FirstGood
import PocketAp.Relay.Framing
import PocketAp.Relay.Limits
import PocketAp.Relay.Observers
import PocketAp.Relay.Provenance
import PocketAp.Relay.Relay
import PocketAp.Relay.Returns
import PocketAp.Relay.Stream
import PocketAp.Relay.StreamPlan
import PocketAp.Relay.StreamSplit
import PocketAp.Relay.StreamSuccess
import PocketAp.Relay.StreamTiming
import PocketAp.Selector.Fairness
import PocketAp.Selector.Filter
import PocketAp.Transport.Framing
import PocketAp.Transport.HTTP
import PocketAp.Transport.Handle
import PocketAp.Transport.Handshake
import PocketAp.Transport.Headers
import PocketAp.Transport.Listener
import PocketAp.Transport.Provenance
import PocketAp.Transport.Routing
import PocketAp.Transport.ServeStream
import PocketAp.Transport.Served
import PocketAp.Transport.Slots
import PocketAp.Transport.Status
import PocketAp.Transport.Suppliers
import PocketAp.Transport.Trailers
import PocketAp.Transport.WS
import PocketAp.Websockets.Bridge
import PocketAp.Websockets.Draining
import PocketAp.Websockets.Expiry
import PocketAp.Websockets.Forwarding
import PocketAp.Websockets.Teardown
import PocketAp.Websockets.Upgrade
