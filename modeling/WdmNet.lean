import WdmNet.Cli.Address
import WdmNet.Cli.Flags
import WdmNet.Cli.Process
import WdmNet.Cli.Simulator
import WdmNet.Cli.TopologyFile
import WdmNet.Cli.TwinServer
import WdmNet.Cli.Values
import WdmNet.Control.Client
import WdmNet.Control.Method
import WdmNet.Control.Payload
import WdmNet.Control.Request
import WdmNet.Control.Server
import WdmNet.Control.Service
import WdmNet.Control.Status
import WdmNet.Decimal.Binary
import WdmNet.Decimal.Notation
import WdmNet.Decimal.Shortest
import WdmNet.Failure
import WdmNet.Inspect.Figures
import WdmNet.Inspect.Query
import WdmNet.Inspect.Views
import WdmNet.Json.Canonical
import WdmNet.Json.Parse
import WdmNet.Json.Print
import WdmNet.Json.Value
import WdmNet.Log.Line
import WdmNet.Log.Logger
import WdmNet.Log.Record
import WdmNet.Main
import WdmNet.Metrics.Collector
import WdmNet.Metrics.Exposition
import WdmNet.Metrics.Instrument
import WdmNet.Metrics.Registry
import WdmNet.Network.Amplifier
import WdmNet.Network.Basic
import WdmNet.Network.Event
import WdmNet.Network.Fiber
import WdmNet.Network.Monitor
import WdmNet.Network.Propagation
import WdmNet.Network.Roadm
import WdmNet.Network.Route
import WdmNet.Network.Signal
import WdmNet.Network.Terminal
import WdmNet.Optics.Elementary
import WdmNet.Optics.Grid
import WdmNet.Optics.Lanes
import WdmNet.Optics.Modulation
import WdmNet.Optics.Scalar
import WdmNet.Optics.Units
import WdmNet.Proofs.Amplifier.GainControl
import WdmNet.Proofs.Control.Refusals
import WdmNet.Proofs.Except
import WdmNet.Proofs.Network.Additions
import WdmNet.Proofs.Network.Arena
import WdmNet.Proofs.Network.Bindings
import WdmNet.Proofs.Network.ChannelOrder
import WdmNet.Proofs.Network.FailureKinds
import WdmNet.Proofs.Network.Fresh
import WdmNet.Proofs.Network.Invariant
import WdmNet.Proofs.Network.LinkReset
import WdmNet.Proofs.Network.Paths
import WdmNet.Proofs.Network.Reachable
import WdmNet.Proofs.Network.Reports
import WdmNet.Proofs.Network.Route
import WdmNet.Proofs.Network.Switching
import WdmNet.Proofs.Optics.Exact
import WdmNet.Proofs.Optics.Interference
import WdmNet.Proofs.Pass.Budget
import WdmNet.Proofs.Pass.ChannelOrder
import WdmNet.Proofs.Pass.Closed
import WdmNet.Proofs.Pass.Frame
import WdmNet.Proofs.Pass.Reports
import WdmNet.Proofs.Pass.SwitchCount
import WdmNet.Proofs.Roadm.Affected
import WdmNet.Proofs.Roadm.Leveling
import WdmNet.Proofs.Roadm.OutputPort
import WdmNet.Proofs.Roadm.Outputs
import WdmNet.Proofs.Roadm.Table
import WdmNet.Proofs.Roadm.Undo
import WdmNet.Proofs.Signal.ChannelOrder
import WdmNet.Proofs.Signal.Index
import WdmNet.Proofs.Signal.Path
import WdmNet.Proofs.Signal.SameState
import WdmNet.Proofs.Terminal.Bindings
import WdmNet.Proofs.Terminal.Receive
import WdmNet.Proofs.Topology.Duplicates
import WdmNet.Proofs.Topology.Replay
import WdmNet.Proofs.Topology.Validation
import WdmNet.Schema.Basic
import WdmNet.Schema.FromJson
import WdmNet.Schema.ToJson
import WdmNet.Text.Blank
import WdmNet.Text.Case
import WdmNet.Text.Duration
import WdmNet.Text.Printable
import WdmNet.Text.Quoted
import WdmNet.Text.Utf8
import WdmNet.Topology.Build
import WdmNet.Topology.Description
import WdmNet.Topology.Load
import WdmNet.Trace.Provider
import WdmNet.Trace.Span
import WdmNet.Twin
import WdmNet.Yaml.Decode
import WdmNet.Yaml.Document
import WdmNet.Yaml.Emit
import WdmNet.Yaml.Event
import WdmNet.Yaml.Node
import WdmNet.Yaml.Resolve
import WdmNet.Yaml.Source
import WdmNet.Yaml.Token
import WdmNet.Yaml.Token.Cursor
import WdmNet.Yaml.Token.Property
import WdmNet.Yaml.Token.Scalar
import WdmNet.Yaml.Token.Stream
import WdmNet.Proofs.Network.Lockstep
import WdmNet.Proofs.Schema.View
import WdmNet.Proofs.Topology.Canonical
import WdmNet.Proofs.Topology.Readable
import WdmNet.Proofs.Schema.JsonCodec
import WdmNet.Proofs.Schema.JsonForm
import WdmNet.Proofs.Yaml.Scalars
import WdmNet.Proofs.Yaml.DecodeForm
