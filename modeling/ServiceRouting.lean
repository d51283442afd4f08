import ServiceRouting.Table
import ServiceRouting.Text.Blank
import ServiceRouting.Text.Quoted
import ServiceRouting.Duration
import ServiceRouting.Decimal.Shortest
import ServiceRouting.Json.Reader
import ServiceRouting.Json.Writer
import ServiceRouting.Address.Printer
import ServiceRouting.Address.Parser
import ServiceRouting.Cluster.Projection
import ServiceRouting.Service.Builtin
import ServiceRouting.Call.Execution
import ServiceRouting.Routing.CircularScan
import ServiceRouting.Routing.StickySlot
import ServiceRouting.Routing.Selector
import ServiceRouting.Proxy.Backoff
import ServiceRouting.Proxy.Cancellation
import ServiceRouting.Proxy.Attempt
import ServiceRouting.Proxy.Invocation
import ServiceRouting.Proxy.Callers
import ServiceRouting.Proxy.PacedCallers
import ServiceRouting.Wire.Call
import ServiceRouting.Wire.Response
import ServiceRouting.Wire.Service
import ServiceRouting.Wire.Node
import ServiceRouting.Proxy.Basic
import ServiceRouting.Proxy.Grid
import ServiceRouting.Proxy.GridUse
import ServiceRouting.Transport.InProcess
import ServiceRouting.Transport.Http
import ServiceRouting.Transport.Peers
import ServiceRouting.Transport.Traffic
import ServiceRouting.Endpoint.Answer
import ServiceRouting.Config.Startup
import ServiceRouting.Toml.Reader
import ServiceRouting.CommandLine
import ServiceRouting.Simulation.Call
import ServiceRouting.Main
import ServiceRouting.Proofs.Callers.Step
import ServiceRouting.Proofs.Callers.Interleaving
import ServiceRouting.Proofs.Callers.Sharing
import ServiceRouting.Proofs.Callers.StickySafety
import ServiceRouting.Proofs.Callers.Cancellation
import ServiceRouting.Proofs.Callers.Pacing
import ServiceRouting.Proofs.Invocation.Account
import ServiceRouting.Proofs.Invocation.Course
import ServiceRouting.Proofs.Invocation.Law
import ServiceRouting.Proofs.Invocation.Once
import ServiceRouting.Proofs.Cluster.Views
import ServiceRouting.Proofs.Text.ByteOrder
import ServiceRouting.Proofs.Cluster.History
import ServiceRouting.Proofs.Cluster.Containment
import ServiceRouting.Proofs.Grid.Proxies
import ServiceRouting.Proofs.Routing.CircularScan
import ServiceRouting.Proofs.Routing.Selection
import ServiceRouting.Proofs.Routing.Hosting
import ServiceRouting.Proofs.Invocation.Unhosted
import ServiceRouting.Proofs.Service.Registration
import ServiceRouting.Proofs.Call.Transparency
import ServiceRouting.Proofs.Call.Dispatch
import ServiceRouting.Proofs.Json.Integers
import ServiceRouting.Proofs.Json.Decimals
import ServiceRouting.Proofs.Json.Quotation
import ServiceRouting.Proofs.Routing.Affinity
import ServiceRouting.Proofs.Json.RoundTrip
import ServiceRouting.Proofs.Json.Inversion
import ServiceRouting.Proofs.Json.Documents
import ServiceRouting.Proofs.Wire.Messages
import ServiceRouting.Proofs.Transport.Delivery
import ServiceRouting.Proofs.Transport.Posting
import ServiceRouting.Proofs.Transport.Misrouting
import ServiceRouting.Proofs.Transport.Submission
import ServiceRouting.Proofs.Service.Deployments
import ServiceRouting.Proofs.Service.Listing
import ServiceRouting.Proofs.Config.Validation
import ServiceRouting.Proofs.Config.Violations
import ServiceRouting.Proofs.Config.Startup
import ServiceRouting.Proofs.Wire.PublicAnswers
import ServiceRouting.Proofs.Wire.RoundTrip
import ServiceRouting.Proofs.Proxy.Backoff
import ServiceRouting.Proofs.Proxy.Doubling
import ServiceRouting.Proofs.Routing.ScanTurns
import ServiceRouting.Proofs.Routing.SlotAccount
import ServiceRouting.Proofs.Json.Rereading
import ServiceRouting.Proofs.Json.Acceptance
import ServiceRouting.Proofs.Transport.Forwarding
