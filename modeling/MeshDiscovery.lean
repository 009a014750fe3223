import MeshDiscovery.ClientConfig
import MeshDiscovery.CommandLine.Arguments
import MeshDiscovery.CommandLine.KeyValue
import MeshDiscovery.CommandLine.Log
import MeshDiscovery.CommandLine.Run
import MeshDiscovery.CommandLine.Setting
import MeshDiscovery.CommandLine.Token
import MeshDiscovery.Deployment.Basic
import MeshDiscovery.Deployment.Consume
import MeshDiscovery.Deployment.Move
import MeshDiscovery.Deployment.Operation
import MeshDiscovery.Deployment.Perform
import MeshDiscovery.Deployment.Scenario
import MeshDiscovery.Deployment.Schedule
import MeshDiscovery.Exchange
import MeshDiscovery.Exchange.Cache
import MeshDiscovery.Exchange.Publication
import MeshDiscovery.Exchange.Registry
import MeshDiscovery.Exchange.Shared
import MeshDiscovery.Main
import MeshDiscovery.Metadata
import MeshDiscovery.NameMap
import MeshDiscovery.NameSet
import MeshDiscovery.Node
import MeshDiscovery.Proofs.CommandLine.Headers
import MeshDiscovery.Proofs.CommandLine.Metadata
import MeshDiscovery.Proofs.CommandLine.Server
import MeshDiscovery.Proofs.Deployment.Aside
import MeshDiscovery.Proofs.Deployment.Coinciding
import MeshDiscovery.Proofs.Deployment.Decoding
import MeshDiscovery.Proofs.Deployment.Driving
import MeshDiscovery.Proofs.Deployment.Ending
import MeshDiscovery.Proofs.Deployment.External
import MeshDiscovery.Proofs.Deployment.Growing
import MeshDiscovery.Proofs.Deployment.Handing
import MeshDiscovery.Proofs.Deployment.History
import MeshDiscovery.Proofs.Deployment.Nesting
import MeshDiscovery.Proofs.Deployment.Packing
import MeshDiscovery.Proofs.Deployment.Publishing
import MeshDiscovery.Proofs.Deployment.Reachable
import MeshDiscovery.Proofs.Deployment.Refusing
import MeshDiscovery.Proofs.Deployment.Returning
import MeshDiscovery.Proofs.Deployment.Round
import MeshDiscovery.Proofs.Deployment.Stepping
import MeshDiscovery.Proofs.Deployment.Subscribing
import MeshDiscovery.Proofs.Deployment.Turn
import MeshDiscovery.Proofs.Deployment.Watching
import MeshDiscovery.Proofs.Exchange.Asking
import MeshDiscovery.Proofs.Exchange.Balance
import MeshDiscovery.Proofs.Exchange.Board
import MeshDiscovery.Proofs.Exchange.Cache
import MeshDiscovery.Proofs.Exchange.Cascade
import MeshDiscovery.Proofs.Exchange.Closing
import MeshDiscovery.Proofs.Exchange.FilterChains
import MeshDiscovery.Proofs.Exchange.Independence
import MeshDiscovery.Proofs.Exchange.LastWord
import MeshDiscovery.Proofs.Exchange.Lookup
import MeshDiscovery.Proofs.Exchange.Occurrence
import MeshDiscovery.Proofs.Exchange.Outline
import MeshDiscovery.Proofs.Exchange.Passive
import MeshDiscovery.Proofs.Exchange.References
import MeshDiscovery.Proofs.Exchange.Registrations
import MeshDiscovery.Proofs.Exchange.Registry
import MeshDiscovery.Proofs.Exchange.Services
import MeshDiscovery.Proofs.Exchange.Subscriptions
import MeshDiscovery.Proofs.Exchange.Wildcards
import MeshDiscovery.Proofs.Metadata
import MeshDiscovery.Proofs.Node
import MeshDiscovery.Proofs.Resource.Conversion
import MeshDiscovery.Proofs.Result
import MeshDiscovery.Proofs.Schema.Endpoint
import MeshDiscovery.Proofs.Schema.Listener
import MeshDiscovery.Proofs.Schema.Route
import MeshDiscovery.Proofs.Session.Acknowledgement
import MeshDiscovery.Proofs.Session.Agreement
import MeshDiscovery.Proofs.Session.Closing
import MeshDiscovery.Proofs.Session.Coinciding
import MeshDiscovery.Proofs.Session.Counting
import MeshDiscovery.Proofs.Session.Effect
import MeshDiscovery.Proofs.Session.Frame
import MeshDiscovery.Proofs.Session.Gauges
import MeshDiscovery.Proofs.Session.Link
import MeshDiscovery.Proofs.Session.Queue
import MeshDiscovery.Proofs.Session.Recording
import MeshDiscovery.Proofs.Session.Replay
import MeshDiscovery.Proofs.Session.Responses
import MeshDiscovery.Proofs.Session.Sending
import MeshDiscovery.Proofs.Session.Standing
import MeshDiscovery.Proofs.Session.Step
import MeshDiscovery.Proofs.Session.Streams
import MeshDiscovery.Proofs.Session.Wildcards
import MeshDiscovery.Proofs.Text.Separator
import MeshDiscovery.Proofs.Uri.Authority
import MeshDiscovery.Proofs.Uri.Host
import MeshDiscovery.Proofs.Wire.Restoring
import MeshDiscovery.Proofs.Wire.RoundTrip
import MeshDiscovery.Request
import MeshDiscovery.Resource.Cluster
import MeshDiscovery.Resource.Kind
import MeshDiscovery.Resource.Listener
import MeshDiscovery.Resource.Route
import MeshDiscovery.ResourceType
import MeshDiscovery.Schema.Any
import MeshDiscovery.Schema.Cluster
import MeshDiscovery.Schema.ConnectionManager
import MeshDiscovery.Schema.Endpoint
import MeshDiscovery.Schema.Listener
import MeshDiscovery.Schema.Route
import MeshDiscovery.Session.Basic
import MeshDiscovery.Session.Call
import MeshDiscovery.Session.Error
import MeshDiscovery.Session.Metrics
import MeshDiscovery.Session.Notice
import MeshDiscovery.Session.Stream
import MeshDiscovery.SocketAddress
import MeshDiscovery.Status
import MeshDiscovery.Subscription
import MeshDiscovery.Text.Decimal
import MeshDiscovery.Text.Json
import MeshDiscovery.Text.Printable
import MeshDiscovery.Text.Quoted
import MeshDiscovery.Uri
import MeshDiscovery.Uri.Authority
import MeshDiscovery.Wire.Field
import MeshDiscovery.Wire.Message
import MeshDiscovery.Wire.Varint
