import WdmNet.Inspect.Views
/-!
Inspection queries.

A query asks a network about one of its parts and is answered with the part's view, or with
the failure that names what is missing. A query at a point of the network names the direction
of the signals it looks at by a mode, which is read first: a mode that does not read fails the
query before anything is looked up.
-/

namespace WdmNet

/-- A question about a network. -/
inductive Query where
  /-- The readings of a monitor: of an amplifier, a span of a link or a node port. -/
  | monitor (kind name : String) (index : Int) (mode : String)
  /-- The powers and ratios of one channel at a monitor. -/
  | monitorChannel (kind name : String) (index channel : Int) (mode : String)
  /-- The signals at a port of a node. -/
  | signals (node : String) (port : Int) (mode : String)
  /-- One signal at a port of a node with the locations it visited. -/
  | signalPath (node : String) (port channel : Int) (mode : String)
  | reports (terminal : String)
  | terminal (name : String)
  | roadm (name : String)
  | amplifier (name : String)
  | link (name : String)
  /-- The shortest path between two nodes and its length. -/
  | path (src dst : String)
  | neighbors (name : String)
  | describe
  /-- A node by name, as a terminal or a ROADM when the kind asks for one. -/
  | lookup (name kind : String)
  | inventory
  deriving Repr, Inhabited

namespace Network

/-- The state of a channel at a monitor, as a value that is shown only when the monitor sees
the channel. -/
def channelAt (mon : Monitor) (n : Network) (ch : Int) (m : Mode) : Json :=
  let st := mon.state n.signals ch m
  let val (f : SignalState → Signal → Json) : Json :=
    match st with
    | some (x, sg) => .obj [("value", f x sg), ("ok", .bool true)]
    | none => .obj [("value", .ofInt 0), ("ok", .bool false)]
  .obj [("location", .str mon.location.render), ("channels", .arr (mon.channels.map .ofInt)),
    ("power", val fun x _ => Inspect.quantity x.power), ("ase", val fun x _ => Inspect.quantity x.ase),
    ("nli", val fun x _ => Inspect.quantity x.nli), ("osnr", val fun x _ => Inspect.level (osnrDb x)),
    ("gosnr", val fun x sg => Inspect.level (gosnrDb x sg.symbolRate))]

/-- The answer of a query. -/
def query (n : Network) : Query → Except Failure Json
  | .monitor kind name index mode => do
    let m ← Mode.parse mode
    let rs ← n.monitor kind name index m
    pure (.arr (rs.map Reading.view))
  | .monitorChannel kind name index ch mode => do
    let m ← Mode.parse mode
    let mon ← n.monitorOf kind name index m
    pure (channelAt mon n ch m)
  | .signals node port mode => do
    let m ← Mode.parse mode
    let sigs ← n.portSignals node port m
    pure (.arr (sigs.map Signal.view))
  | .signalPath node port ch mode => do
    let m ← Mode.parse mode
    let sigs ← n.portSignals node port m
    pure (match sigs.find? (·.index == ch) with
      | some sg => .obj [("signal", sg.view), ("visits", .arr (sg.visits.map Visit.view))]
      | none => .null)
  | .reports t => (n.terminal t).map fun t => .arr (t.reports.values.map Report.view)
  | .terminal t => (n.terminal t).map Terminal.view
  | .roadm r => (n.roadm r).map Roadm.view
  | .amplifier a => (n.amplifier a).map Amplifier.view
  | .link l => (n.link l).map (Link.view n)
  | .path src dst => do
    let (nodes, len) ← n.path Search.route src dst
    pure (.obj [("nodes", .arr (nodes.map .str)), ("length_km", Inspect.quantity len)])
  | .neighbors name => do
    let adj ← n.neighbors name
    pure (if adj.isEmpty then .null
      else .arr (adj.map fun (nb, l) => .obj [("neighbor", .str nb), ("link", .str l)]))
  | .describe => n.describe.toJson
  | .lookup name kind => do
    let nd ← if kind == "terminal" then (do pure (Node.terminal (← n.terminal name)))
      else if kind == "roadm" then (do pure (Node.roadm (← n.roadm name)))
      else n.node name
    pure (.obj [("name", .str nd.name), ("kind", .str nd.kind), ("handle", .ofInt nd.handle)])
  | .inventory => .ok n.inventory

end Network

end WdmNet
