import Irpc.Foundation.Bytes
import Irpc.Foundation.System
import Irpc.Foundation.SmoothRobin
import Irpc.Foundation.Writer
import Irpc.Foundation.Loop
import Irpc.Foundation.EvictingMap
import Irpc.Foundation.Pipe
import Irpc.Errors
import Irpc.Protocol.Header
import Irpc.Protocol.HeaderFields
import Irpc.Protocol.Message
import Irpc.Protocol.Metadata
import Irpc.Protocol.Encode
import Irpc.Protocol.WriteTo
import Irpc.Protocol.Decode
import Irpc.Util.BufferPool
import Irpc.Util.SizeClasses
import Irpc.Protocol.Parsing
import Irpc.Protocol.MetadataGrammar
import Irpc.Protocol.DecodeSafety
import Irpc.Protocol.RoundTrip
import Irpc.Protocol.Grammar
import Irpc.Protocol.Recycling
import Irpc.Protocol.GzipEncoding
import Irpc.Protocol.MessagePool
import Irpc.Protocol.PooledRequest
import Irpc.Server.Service
import Irpc.Server.HandleRequest
import Irpc.Server.Response
import Irpc.Server.ServeConn
import Irpc.Server.Router
import Irpc.Server.Lifecycle
import Irpc.Server.Shutdown
import Irpc.Server.ServeListener
import Irpc.Server.TokenService
import Irpc.Server.TokenInvariant
import Irpc.Server.FileTransfer
import Irpc.Server.Stream
import Irpc.Server.Registry
import Irpc.Server.TypePools
import Irpc.ServerPlugin.Alias
import Irpc.ServerPlugin.Register
import Irpc.ServerPlugin.Unregistered
import Irpc.ServerPlugin.Bookkeeping
import Irpc.ServerPlugin.Fleet
import Irpc.ServerPlugin.AccessList
import Irpc.Client.Client
import Irpc.Client.Steps
import Irpc.Client.Phases
import Irpc.Client.Completion
import Irpc.Client.Oneway
import Irpc.Client.Locking
import Irpc.Client.Correlation
import Irpc.Client.Isolation
import Irpc.Client.ErrorResponse
import Irpc.Server.Classification
import Irpc.XClient.Retry
import Irpc.XClient.Call
import Irpc.XClient.BoundedRetry
import Irpc.XClient.SendRaw
import Irpc.XClient.FanOut
import Irpc.XClient.Broadcast
import Irpc.XClient.Fork
import Irpc.XClient.Inform
import Irpc.XClient.ReqMetadata
import Irpc.XClient.ClientCache
import Irpc.XClient.Discovery
import Irpc.XClient.GroupFilter
import Irpc.XClient.ConsulDiscovery
import Irpc.XClient.ConsulWatch
import Irpc.Server.JsonRpc
import Irpc.Server.JsonId
import Irpc.XClient.ConsistentHash
import Irpc.XClient.HashMembership
import Irpc.XClient.JumpHash
import Irpc.XClient.RoundRobin
import Irpc.XClient.Failover
import Irpc.XClient.WeightedRoundRobin
import Irpc.XClient.WeightRange
import Irpc.XClient.WeightedSelect
import Irpc.XClient.WeightedICMP
import Irpc.XClient.Selection
import Irpc.XClient.GeoSelector
import Irpc.Server.ServerTimeout
import Irpc.Server.Converter
import Irpc.Server.QueryFormat
import Irpc.Client.RawResponse
import Irpc.Server.Gateway
import Irpc.XClient.CircuitBreaker
import Irpc.XClient.KeyedClient
import Irpc.XClient.BreakerHistory
import Irpc.XClient.FileLoops
import Irpc.Server.LocalReply
import Irpc.Link.Frames
import Irpc.Link.Link
import Irpc.Link.Invariant
import Irpc.Link.Answered
import Irpc.Link.Delivery
import Irpc.Link.RemoteCall
import Irpc.Link.ServerMessages
import Irpc.Link.Uploads
