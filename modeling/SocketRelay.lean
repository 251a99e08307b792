import SocketRelay.Channel
import SocketRelay.CommandLine
import SocketRelay.Config.Basic
import SocketRelay.Config.Decode
import SocketRelay.Config.Error
import SocketRelay.Config.Loader
import SocketRelay.Config.Sections
import SocketRelay.Config.Validation
import SocketRelay.Event
import SocketRelay.Live.Host
import SocketRelay.Live.Machine
import SocketRelay.Live.Sockets
import SocketRelay.Live.TcpRoute
import SocketRelay.Live.UdpRoute
import SocketRelay.Log.Expression
import SocketRelay.Log.Expression.Class
import SocketRelay.Log.Expression.Primitive
import SocketRelay.Log.Filter
import SocketRelay.Log.Level
import SocketRelay.Log.Pattern
import SocketRelay.Log.Record
import SocketRelay.Log.Settings
import SocketRelay.Log.Subscriber
import SocketRelay.Machine
import SocketRelay.Main
import SocketRelay.Net.Endpoint
import SocketRelay.Net.Host
import SocketRelay.Net.IPv4
import SocketRelay.Net.IPv6
import SocketRelay.Net.IoError
import SocketRelay.Net.Resolve
import SocketRelay.Program
import SocketRelay.Proofs.Config.Admission
import SocketRelay.Proofs.Config.Conflicts
import SocketRelay.Proofs.Config.KnownKeys
import SocketRelay.Proofs.Config.Records
import SocketRelay.Proofs.Config.Reporting
import SocketRelay.Proofs.Config.Startup
import SocketRelay.Proofs.Interleaving
import SocketRelay.Proofs.Log.LineBreaks
import SocketRelay.Proofs.Net.EndpointText
import SocketRelay.Proofs.Net.IpText
import SocketRelay.Proofs.Net.Literal
import SocketRelay.Proofs.Route.Addresses
import SocketRelay.Proofs.Route.RuleLanguage
import SocketRelay.Proofs.Route.RuleLists
import SocketRelay.Proofs.Route.RuleText
import SocketRelay.Proofs.Supervisor.Entries
import SocketRelay.Proofs.Supervisor.EventLines
import SocketRelay.Proofs.Supervisor.FailureLog
import SocketRelay.Proofs.Supervisor.Failures
import SocketRelay.Proofs.Supervisor.Statuses
import SocketRelay.Proofs.Tcp.Accounting
import SocketRelay.Proofs.Tcp.Answers
import SocketRelay.Proofs.Tcp.ByteCounts
import SocketRelay.Proofs.Tcp.CopyTrace
import SocketRelay.Proofs.Tcp.Directions
import SocketRelay.Proofs.Tcp.EventLines
import SocketRelay.Proofs.Tcp.EventLog
import SocketRelay.Proofs.Tcp.Moves
import SocketRelay.Proofs.Tcp.Stories
import SocketRelay.Proofs.Tcp.Transfers
import SocketRelay.Proofs.Tcp.Volumes
import SocketRelay.Proofs.Text.Digits
import SocketRelay.Proofs.Toml.DistinctKeys
import SocketRelay.Proofs.Udp.Bursts
import SocketRelay.Proofs.Udp.Clocks
import SocketRelay.Proofs.Udp.Conservation
import SocketRelay.Proofs.Udp.Counters
import SocketRelay.Proofs.Udp.EventLines
import SocketRelay.Proofs.Udp.FailureNotice
import SocketRelay.Proofs.Udp.Forwarders
import SocketRelay.Proofs.Udp.Forwarding
import SocketRelay.Proofs.Udp.HandOff
import SocketRelay.Proofs.Udp.IdleBound
import SocketRelay.Proofs.Udp.Idleness
import SocketRelay.Proofs.Udp.Incarnations
import SocketRelay.Proofs.Udp.Isolation
import SocketRelay.Proofs.Udp.LostReports
import SocketRelay.Proofs.Udp.Moves
import SocketRelay.Proofs.Udp.ReadLoop
import SocketRelay.Proofs.Udp.Refusals
import SocketRelay.Proofs.Udp.ReplierLoop
import SocketRelay.Proofs.Udp.Repliers
import SocketRelay.Proofs.Udp.Replies
import SocketRelay.Proofs.Udp.Resolution
import SocketRelay.Proofs.Udp.Serving
import SocketRelay.Proofs.Udp.SessionLog
import SocketRelay.Proofs.Udp.SessionTable
import SocketRelay.Proofs.Udp.Settings
import SocketRelay.Proofs.Udp.Shares
import SocketRelay.Proofs.Udp.Snapshots
import SocketRelay.Proofs.Udp.Sweeps
import SocketRelay.Proofs.Udp.Truncation
import SocketRelay.Route
import SocketRelay.Route.Rule
import SocketRelay.Storage
import SocketRelay.Supervisor
import SocketRelay.Tcp.Connection
import SocketRelay.Tcp.Copy
import SocketRelay.Tcp.Error
import SocketRelay.Tcp.Relay
import SocketRelay.Tcp.Requests
import SocketRelay.Tcp.Settings
import SocketRelay.Tcp.Stats
import SocketRelay.Tcp.Stream
import SocketRelay.Text.Alphanumeric
import SocketRelay.Text.Blank
import SocketRelay.Text.Bytes
import SocketRelay.Text.Digits
import SocketRelay.Text.Printable
import SocketRelay.Text.Quoted
import SocketRelay.Text.Reader
import SocketRelay.Text.Split
import SocketRelay.Text.Terminal
import SocketRelay.Time
import SocketRelay.Toml.Binary64
import SocketRelay.Toml.Blank
import SocketRelay.Toml.Document
import SocketRelay.Toml.Moment
import SocketRelay.Toml.Number
import SocketRelay.Toml.Outline
import SocketRelay.Toml.Quoted
import SocketRelay.Toml.Value
import SocketRelay.Udp.Engine
import SocketRelay.Udp.Error
import SocketRelay.Udp.Relay
import SocketRelay.Udp.Session
import SocketRelay.Udp.Settings
import SocketRelay.Udp.Stats
import SocketRelay.Udp.Tasks
