import VehicleEdge.Adapter.CommandLine
import VehicleEdge.Adapter.Downlink
import VehicleEdge.Adapter.Lifecycle
import VehicleEdge.Adapter.Registration
import VehicleEdge.Adapter.Startup
import VehicleEdge.Adapter.Uplink
import VehicleEdge.Broker.Types
import VehicleEdge.Cloud.Configuration
import VehicleEdge.Cloud.Connector
import VehicleEdge.Cloud.DirtyFlag
import VehicleEdge.Cloud.Downstream
import VehicleEdge.Cloud.Fota
import VehicleEdge.Cloud.FotaLog
import VehicleEdge.Cloud.LastValue
import VehicleEdge.Cloud.LoopThread
import VehicleEdge.Cloud.Proto
import VehicleEdge.Cloud.Rate
import VehicleEdge.Cloud.Rejection
import VehicleEdge.Cloud.Subscribe
import VehicleEdge.Cloud.Upload
import VehicleEdge.Cloud.Upstream
import VehicleEdge.Feeder.Delivery
import VehicleEdge.Feeder.Pass
import VehicleEdge.Feeder.Progress
import VehicleEdge.Feeder.Provenance
import VehicleEdge.Feeder.Rollback
import VehicleEdge.Feeder.Run
import VehicleEdge.Feeder.Shutdown
import VehicleEdge.Feeder.Termination
import VehicleEdge.Feeder.Values
import VehicleEdge.Fota.Flash
import VehicleEdge.Fota.Report
import VehicleEdge.Library.ByteMemory
import VehicleEdge.Library.KeyedMap
import VehicleEdge.Library.LastWrite
import VehicleEdge.Library.Machine
import VehicleEdge.Library.Numeral
import VehicleEdge.Library.Progress
import VehicleEdge.Library.Shell
import VehicleEdge.Someip.Batch
import VehicleEdge.Someip.ByteOrder
import VehicleEdge.Someip.Client
import VehicleEdge.Someip.Config
import VehicleEdge.Someip.Decode
import VehicleEdge.Someip.DecodeBounds
import VehicleEdge.Someip.Document
import VehicleEdge.Someip.Encode
import VehicleEdge.Someip.EncodeBounds
import VehicleEdge.Someip.EventTransform
import VehicleEdge.Someip.Feeds
import VehicleEdge.Someip.Fields
import VehicleEdge.Someip.Independence
import VehicleEdge.Someip.Isolation
import VehicleEdge.Someip.Loader
import VehicleEdge.Someip.MethodTransform
import VehicleEdge.Someip.Narrowing
import VehicleEdge.Someip.Placement
import VehicleEdge.Someip.Requests
import VehicleEdge.Someip.RoundTrip
import VehicleEdge.Someip.Routing
import VehicleEdge.Someip.Signals
import VehicleEdge.Someip.Sources
import VehicleEdge.Someip.Subscriptions
import VehicleEdge.Subscriber.Responses
import VehicleEdge.Subscriber.Run
import VehicleEdge.Subscriber.Shutdown
import VehicleEdge.Subscriber.Termination
import VehicleEdge.Wiper.Codec
import VehicleEdge.Wiper.Schedule
import VehicleEdge.Wiper.Service
import VehicleEdge.Wiper.Simulator
