import TunnelRelay.Bytes
import TunnelRelay.Status
import TunnelRelay.Error
import TunnelRelay.Instruction
import TunnelRelay.ProtocolVersion
import TunnelRelay.Frame.Decoder
import TunnelRelay.Stream.Basic
import TunnelRelay.Stream.Script
import TunnelRelay.Frame.Reader
import TunnelRelay.Filter
import TunnelRelay.Frame.FilteredWriter
import TunnelRelay.Frame.FilteredReader
import TunnelRelay.Text
import TunnelRelay.Http.Quality
import TunnelRelay.Http.ContentEncoding
import TunnelRelay.Http.Headers
import TunnelRelay.Metrics
import TunnelRelay.TunnelRequest
import TunnelRelay.Guacd.Handshake
import TunnelRelay.Stream.WriteAll
import TunnelRelay.Frame.Writer
import TunnelRelay.Stream.Link
import TunnelRelay.Backend
import TunnelRelay.Lock
import TunnelRelay.Uuid
import TunnelRelay.Token
import TunnelRelay.Tunnel
import TunnelRelay.Backend.Halves
import TunnelRelay.Guacd.Peer
import TunnelRelay.Tunnel.Calls
import TunnelRelay.Text.Quoted
import TunnelRelay.Text.Lossy
import TunnelRelay.Http.Form
import TunnelRelay.Outbox
import TunnelRelay.Registry
import TunnelRelay.Http.Answer
import TunnelRelay.LongPoll.Command
import TunnelRelay.Pace
import TunnelRelay.LongPoll.Read
import TunnelRelay.LongPoll.Write
import TunnelRelay.Http.Request
import TunnelRelay.WebSocket.Upgrade
import TunnelRelay.WebSocket.Session
import TunnelRelay.LongPoll.Exchange
import TunnelRelay.Relay
import TunnelRelay.Guacd.Establish
import TunnelRelay.Yaml.Glyph
import TunnelRelay.Yaml.Scalar
import TunnelRelay.Yaml.Tag
import TunnelRelay.Yaml.Token
import TunnelRelay.Yaml.Node
import TunnelRelay.Yaml.Typed
import TunnelRelay.Address
import TunnelRelay.Config
import TunnelRelay.Config.Reading
import TunnelRelay.Config.Location
import TunnelRelay.CommandLine
import TunnelRelay.Tls.Pem
import TunnelRelay.Tls.Certificate
import TunnelRelay.Tls.Trust
import TunnelRelay.Guacd.Connector
import TunnelRelay.Startup
import TunnelRelay.Main
import TunnelRelay.Proofs.Frame.Resumption
import TunnelRelay.Proofs.Frame.Intake
import TunnelRelay.Proofs.Text.Codepoints
import TunnelRelay.Proofs.Text.Decimal
import TunnelRelay.Proofs.Frame.Grammar
import TunnelRelay.Proofs.Frame.RoundTrip
import TunnelRelay.Proofs.Stream.Recorded
import TunnelRelay.Proofs.Stream.Keeping
import TunnelRelay.Proofs.Stream.Willing
import TunnelRelay.Proofs.Frame.Forwarding
import TunnelRelay.Proofs.Frame.Bounds
import TunnelRelay.Proofs.Frame.Filtering
import TunnelRelay.Proofs.Frame.Reading
import TunnelRelay.Proofs.Stream.Tapped
import TunnelRelay.Proofs.Frame.Interrupted
import TunnelRelay.Proofs.Frame.Faults
import TunnelRelay.Proofs.Lock
import TunnelRelay.Proofs.Relay.Moves
import TunnelRelay.Proofs.Relay.Tunnels
import TunnelRelay.Proofs.Relay.Lane
import TunnelRelay.Proofs.Relay.Ledger
import TunnelRelay.Proofs.Relay.Writes
import TunnelRelay.Proofs.Relay.Lanes
import TunnelRelay.Proofs.Relay.Sessions
import TunnelRelay.Proofs.Relay.Reads
import TunnelRelay.Proofs.Relay.Messages
import TunnelRelay.Proofs.Relay.Delivery
import TunnelRelay.Proofs.Relay.Inlets
import TunnelRelay.Proofs.Relay.Turns
import TunnelRelay.Proofs.Relay.Feed
import TunnelRelay.Proofs.Relay.Entries
import TunnelRelay.Proofs.Relay.Attendance
import TunnelRelay.Proofs.Relay.Opening
import TunnelRelay.Proofs.Relay.Feeds
import TunnelRelay.Proofs.Relay.Conservation
import TunnelRelay.Proofs.Guacd.Transcript
import TunnelRelay.Proofs.Stream.Timed
import TunnelRelay.Proofs.Relay.Batching
import TunnelRelay.Proofs.Relay.Roll
import TunnelRelay.Proofs.Relay.Fates
import TunnelRelay.Proofs.Relay.Marks
import TunnelRelay.Proofs.Relay.Farewells
import TunnelRelay.Proofs.Relay.Course
import TunnelRelay.Proofs.Relay.Closures
import TunnelRelay.Proofs.Relay.Tally
import TunnelRelay.Proofs.Relay.Endings
import TunnelRelay.Proofs.Relay.Requests
import TunnelRelay.Proofs.Relay.Lifecycle
import TunnelRelay.Proofs.Tunnel.Tasks
import TunnelRelay.Proofs.Tunnel.Operations
import TunnelRelay.Proofs.Tunnel.Closing
import TunnelRelay.Proofs.Tunnel.Guards
import TunnelRelay.Proofs.Tunnel.Tenures
import TunnelRelay.Proofs.Guise.Registry
import TunnelRelay.Proofs.Guise.Requests
import TunnelRelay.Proofs.Guise.Relay
import TunnelRelay.Proofs.Guise.Runs
import TunnelRelay.Proofs.Guise.Omission
import TunnelRelay.Proofs.Relay.Listing
import TunnelRelay.Proofs.Relay.Gate
import TunnelRelay.Proofs.Relay.Tokens
import TunnelRelay.Proofs.Text.Unsigned
import TunnelRelay.Proofs.Guacd.Hearing
import TunnelRelay.Proofs.Guacd.Refusals
import TunnelRelay.Proofs.Guacd.Handover
import TunnelRelay.Proofs.Relay.Disclosure
import TunnelRelay.Proofs.Relay.Freight
import TunnelRelay.Proofs.Relay.Carriage
import TunnelRelay.Proofs.Relay.Sockets
import TunnelRelay.Proofs.Relay.Traffic
import TunnelRelay.Proofs.Guacd.Planning
import TunnelRelay.Proofs.Stream.Waking
import TunnelRelay.Proofs.Relay.Replies
import TunnelRelay.Proofs.Frame.Draining
import TunnelRelay.Proofs.Frame.Verdicts
import TunnelRelay.Proofs.Frame.Pending
import TunnelRelay.Proofs.Relay.Removals
import TunnelRelay.Proofs.Relay.Holdings
import TunnelRelay.Proofs.Relay.Expiry
import TunnelRelay.Proofs.Frame.Screening
import TunnelRelay.Proofs.Frame.Sifting
import TunnelRelay.Proofs.Frame.Causes
import TunnelRelay.Proofs.Frame.Availability
import TunnelRelay.Proofs.Http.Negotiation
import TunnelRelay.Proofs.Http.Preference
import TunnelRelay.Proofs.Frame.Machine
import TunnelRelay.Proofs.Frame.Safety
