import Std.Data.TreeMap
import WdmNet.Network.Fiber
import WdmNet.Network.Amplifier
import WdmNet.Network.Roadm
import WdmNet.Network.Terminal
/-!
The network: nodes, amplifiers, spans and links, and the signals launched in it.

Every component is addressed by a handle, its position in the list of its kind, and nodes,
amplifiers and links also by name. A link runs from an output port of one node to an input
port of another through an optional boost amplifier and a chain of spans, each optionally
followed by an inline amplifier; a port carries at most one link, and an amplifier serves at
most one link and at most one node.

Construction checks everything before it changes anything, so a refused addition leaves the
network as it was.
-/

namespace WdmNet

/-- One span of a link and the amplifier after it, if any. -/
structure Hop where
  span : Nat
  amplifier : Option Nat
  deriving Repr, Inhabited, DecidableEq

/-- A directed link between two node ports. -/
structure Link where
  handle : Nat
  name : String
  src : Nat
  dst : Nat
  outPort : Int
  inPort : Int
  boost : Option Nat
  hops : List Hop
  raman : RamanModel
  /-- Total length, km. -/
  length : Float
  srcName : String
  dstName : String
  deriving Repr, Inhabited

namespace Link

/-- The last amplifier a signal crosses on the link: that of the last span, or the boost when
the link has no spans. -/
def lastAmplifier (l : Link) : Option Nat :=
  match l.hops.getLast? with
  | some h => h.amplifier
  | none => l.boost

/-- The locations of the link's components in signal order. -/
def locations (l : Link) : List Location :=
  (match l.boost with
   | some b => [⟨.amplifier, b, 0⟩]
   | none => []) ++
  l.hops.flatMap fun h =>
    ⟨.span, h.span, 0⟩ :: (match h.amplifier with
      | some a => [⟨.amplifier, a, 0⟩]
      | none => [])

end Link

/-- A node: a line terminal or a ROADM. -/
inductive Node where
  | terminal (t : Terminal)
  | roadm (r : Roadm)

namespace Node

/-- The name of a node. -/
def name : Node → String
  | terminal t => t.name
  | roadm r => r.name

/-- The handle of a node. -/
def handle : Node → Nat
  | terminal t => t.handle
  | roadm r => r.handle

/-- The kind of a node, as messages name it. -/
def kind : Node → String
  | terminal _ => "line-terminal"
  | roadm _ => "roadm"

/-- The carriers at a port of the node, arriving (`entry`) or leaving. -/
def portSet (n : Node) (port : Int) (entry : Bool) : ChannelSet :=
  match n with
  | terminal t => t.portSet port entry
  | roadm r => r.portSet port entry

end Node

/-- A node port. -/
structure NodePort where
  node : Nat
  port : Int
  deriving DecidableEq, Repr, Ord

/-- How a link is described when it is added. -/
structure LinkConfig where
  name : String
  src : String
  dst : String
  outPort : Int
  inPort : Int
  boost : String
  /-- Each span with the name of the amplifier after it (empty for none). -/
  spans : List (SpanConfig × String)
  srs : String
  deriving Repr, Inhabited

/-- The whole network. -/
structure Network where
  maxSwitches : Nat
  passSeq : Nat
  nodes : Array Node
  nodeByName : Std.TreeMap String Nat
  amps : Array Amplifier
  ampByName : Std.TreeMap String Nat
  /-- The link each amplifier serves. -/
  ampOnLink : Std.TreeMap Nat String
  /-- The ROADM each amplifier serves. -/
  ampOnNode : Std.TreeMap Nat String
  spans : Array Span
  links : Array Link
  linkByName : Std.TreeMap String Nat
  outLinks : Std.TreeMap NodePort Nat
  inLinks : Std.TreeMap NodePort Nat
  /-- Every signal ever launched; carriers refer to them by position. -/
  signals : Array Signal

/-- The switch budget of a pass when none is given. -/
def defaultMaxSwitches : Nat := 64

namespace Network

/-- An empty network with a switch budget per pass; zero means the default. -/
def empty (maxSwitches : Nat) : Network :=
  { maxSwitches := if maxSwitches == 0 then defaultMaxSwitches else maxSwitches
    passSeq := 0, nodes := #[], nodeByName := {}, amps := #[], ampByName := {},
    ampOnLink := {}, ampOnNode := {}, spans := #[], links := #[], linkByName := {},
    outLinks := {}, inLinks := {}, signals := #[] }

/-- A name is valid if it is not blank and has no blanks around it. -/
def validName (name : String) : Bool :=
  !(Text.trimSpace name).isEmpty && name == Text.trimSpace name

/-- Adds a line terminal with its transceivers. -/
def addTerminal (n : Network) (name : String) (trxs : List Transceiver) :
    Except Failure (Network × Nat) := do
  if !validName name then throw (.of .invalidConfig ("node name " ++ q name))
  if n.nodeByName.contains name then throw (.of .nodeExists (q name))
  let t ← Terminal.create n.nodes.size name trxs
  pure ({ n with nodes := n.nodes.push (.terminal t), nodeByName := n.nodeByName.insert name t.handle },
        t.handle)

/-- Claims the amplifiers of a ROADM's ports (of one role) for a new ROADM. -/
def claimPortAmps (n : Network) (name role : String) (ports : List (Int × String))
    (claimed : List Nat) : Except Failure (List (Int × Nat) × List Nat) := do
  let mut out : List (Int × Nat) := []
  let mut claimed := claimed
  for (port, amp) in ports do
    if port < 0 then
      throw (.of .invalidPort ("roadm " ++ q name ++ " " ++ role ++ " port " ++ toString port))
    let some h := n.ampByName.get? amp
      | throw (.of .amplifierNotFound (q amp ++ " (roadm " ++ q name ++ " " ++ role ++ " port " ++
          toString port ++ ")"))
    match n.ampOnNode.get? h with
    | some owner => throw (.of .amplifierInUse (q amp ++ " already attached to " ++ owner))
    | none =>
      if claimed.contains h then
        throw (.of .amplifierInUse (q amp ++ " already attached to " ++ name))
    claimed := h :: claimed
    out := out ++ [(port, h)]
  pure (out, claimed)

/-- Adds a ROADM; its preamps and boosts must be free amplifiers. -/
def addRoadm (n : Network) (name : String) (cfg : RoadmConfig) : Except Failure (Network × Nat) := do
  if !validName name then throw (.of .invalidConfig ("node name " ++ q name))
  if n.nodeByName.contains name then throw (.of .nodeExists (q name))
  if cfg.insertionLossDb < 0 || cfg.insertionLossDb.isNaN then
    throw (.of .invalidConfig ("roadm " ++ q name ++ " insertion loss " ++
      Decimal.generalText cfg.insertionLossDb))
  let (pre, claimed) ← n.claimPortAmps name "preamp" cfg.preamps []
  let (boo, claimed) ← n.claimPortAmps name "boost" cfg.boosts claimed
  let r := Roadm.create n.nodes.size name cfg
  let r := { r with
    preamps := pre.foldl (fun m (p, h) => m.insert p h) {}
    boosts := boo.foldl (fun m (p, h) => m.insert p h) {} }
  pure ({ n with
    nodes := n.nodes.push (.roadm r)
    nodeByName := n.nodeByName.insert name r.handle
    ampOnNode := claimed.foldl (fun m h => m.insert h name) n.ampOnNode }, r.handle)

/-- Adds an amplifier. -/
def addAmplifier (n : Network) (name : String) (cfg : AmplifierConfig) :
    Except Failure (Network × Nat) := do
  if !validName name then throw (.of .invalidConfig ("amplifier name " ++ q name))
  if n.ampByName.contains name then throw (.of .amplifierExists (q name))
  let a ← Amplifier.create n.amps.size name cfg
  pure ({ n with amps := n.amps.push a, ampByName := n.ampByName.insert name a.handle }, a.handle)

/-- Claims an amplifier for a new link, by name; the empty name claims nothing. -/
def claimLinkAmp (n : Network) (link amp : String) (claimed : List Nat) :
    Except Failure (Option Nat × List Nat) := do
  if amp.isEmpty then return (none, claimed)
  let some h := n.ampByName.get? amp
    | throw (.of .amplifierNotFound (q amp ++ " (link " ++ q link ++ ")"))
  if let some owner := n.ampOnLink.get? h then
    throw (.of .amplifierInUse (q amp ++ " already on link " ++ q owner))
  if claimed.contains h then
    throw (.of .amplifierInUse (q amp ++ " used twice on link " ++ q link))
  pure (some h, h :: claimed)

/-- Adds a link; its name defaults to `src-dst`. -/
def addLink (n : Network) (cfg : LinkConfig) : Except Failure (Network × Nat) := do
  let some src := n.nodeByName.get? cfg.src | throw (.of .nodeNotFound (q cfg.src))
  let some dst := n.nodeByName.get? cfg.dst | throw (.of .nodeNotFound (q cfg.dst))
  let name := if cfg.name.isEmpty then cfg.src ++ "-" ++ cfg.dst else cfg.name
  if n.linkByName.contains name then throw (.of .linkExists (q name))
  if cfg.outPort < 0 || cfg.inPort < 0 then
    throw (.of .invalidPort ("link " ++ q name ++ " ports " ++ toString cfg.outPort ++ "->" ++
      toString cfg.inPort))
  if let some other := n.outLinks.get? ⟨src, cfg.outPort⟩ then
    throw (.of .portInUse (q cfg.src ++ " out port " ++ toString cfg.outPort ++ " carries " ++
      q ((n.links[other]?).map (·.name) |>.getD "")))
  if let some other := n.inLinks.get? ⟨dst, cfg.inPort⟩ then
    throw (.of .portInUse (q cfg.dst ++ " in port " ++ toString cfg.inPort ++ " carries " ++
      q ((n.links[other]?).map (·.name) |>.getD "")))
  let raman ← RamanModel.parse cfg.srs
  let (boost, claimed) ← n.claimLinkAmp name cfg.boost []
  let mut claimed := claimed
  let mut spans : Array Span := #[]
  let mut hops : List Hop := []
  let mut length : Float := 0
  for (spec, i) in cfg.spans.zipIdx do
    let s ← match Span.create (n.spans.size + i) spec.1 with
      | .ok s => pure s
      | .error e => throw (e.wrap ("link " ++ q name ++ " span " ++ toString i))
    let (amp, c) ← n.claimLinkAmp name spec.2 claimed
    claimed := c
    spans := spans.push s
    hops := hops ++ [⟨s.handle, amp⟩]
    length := length + s.config.lengthKm
  let l : Link := ⟨n.links.size, name, src, dst, cfg.outPort, cfg.inPort, boost, hops, raman,
    length, cfg.src, cfg.dst⟩
  pure ({ n with
    spans := n.spans ++ spans
    ampOnLink := claimed.foldl (fun m h => m.insert h name) n.ampOnLink
    links := n.links.push l
    linkByName := n.linkByName.insert name l.handle
    outLinks := n.outLinks.insert ⟨src, cfg.outPort⟩ l.handle
    inLinks := n.inLinks.insert ⟨dst, cfg.inPort⟩ l.handle }, l.handle)

/-- The node of this name. -/
def node (n : Network) (name : String) : Except Failure Node :=
  match n.nodeByName.get? name >>= fun h => n.nodes[h]? with
  | some nd => .ok nd
  | none => .error (.of .nodeNotFound (q name))

/-- The line terminal of this name. -/
def terminal (n : Network) (name : String) : Except Failure Terminal := do
  match ← n.node name with
  | .terminal t => pure t
  | nd => throw (.of .nodeNotFound (q name ++ " is a " ++ nd.kind))

/-- The ROADM of this name. -/
def roadm (n : Network) (name : String) : Except Failure Roadm := do
  match ← n.node name with
  | .roadm r => pure r
  | nd => throw (.of .nodeNotFound (q name ++ " is a " ++ nd.kind))

/-- The amplifier of this name. -/
def amplifier (n : Network) (name : String) : Except Failure Amplifier :=
  match n.ampByName.get? name >>= fun h => n.amps[h]? with
  | some a => .ok a
  | none => .error (.of .amplifierNotFound (q name))

/-- The link of this name. -/
def link (n : Network) (name : String) : Except Failure Link :=
  match n.linkByName.get? name >>= fun h => n.links[h]? with
  | some l => .ok l
  | none => .error (.of .linkNotFound (q name))

/-- The link leaving a node port. -/
def outboundLink (n : Network) (node : Nat) (port : Int) : Option Link :=
  n.outLinks.get? ⟨node, port⟩ >>= fun h => n.links[h]?

/-- The link arriving at a node port. -/
def inboundLink (n : Network) (node : Nat) (port : Int) : Option Link :=
  n.inLinks.get? ⟨node, port⟩ >>= fun h => n.links[h]?

/-- The line terminals in handle order. -/
def terminals (n : Network) : List Terminal :=
  n.nodes.toList.filterMap fun | .terminal t => some t | _ => none

/-- The ROADMs in handle order. -/
def roadms (n : Network) : List Roadm :=
  n.nodes.toList.filterMap fun | .roadm r => some r | _ => none

/-- The neighbours reached by the links leaving a node, in link order, with the links. -/
def neighbors (n : Network) (name : String) : Except Failure (List (String × String)) :=
  match n.nodeByName.get? name with
  | none => .error (.of .nodeNotFound (q name))
  | some h => .ok (n.links.toList.filterMap fun l =>
      if l.src == h then some (l.dstName, l.name) else none)

/-- Replaces the node with this handle. -/
def setNode (n : Network) (h : Nat) (nd : Node) : Network := { n with nodes := n.nodes.set! h nd }

/-- Applies a change to the terminal with this handle. -/
def modifyTerminal (n : Network) (h : Nat) (f : Terminal → Terminal) : Network :=
  { n with nodes := n.nodes.modify h fun | .terminal t => .terminal (f t) | nd => nd }

/-- Applies a change to the ROADM with this handle. -/
def modifyRoadm (n : Network) (h : Nat) (f : Roadm → Roadm) : Network :=
  { n with nodes := n.nodes.modify h fun | .roadm r => .roadm (f r) | nd => nd }

/-- Applies a change to the amplifier with this handle. -/
def modifyAmp (n : Network) (h : Nat) (f : Amplifier → Amplifier) : Network :=
  { n with amps := n.amps.modify h f }

/-- Applies a change to the span with this handle. -/
def modifySpan (n : Network) (h : Nat) (f : Span → Span) : Network :=
  { n with spans := n.spans.modify h f }

/-- Applies a change to the signal at this position. -/
def modifySignal (n : Network) (i : Nat) (f : Signal → Signal) : Network :=
  { n with signals := n.signals.modify i f }

/-- The signal at this position. -/
def signal (n : Network) (i : Nat) : Signal := n.signals[i]?.getD default

/-- The terminal with this handle. -/
def terminalAt? (n : Network) (h : Nat) : Option Terminal :=
  match n.nodes[h]? with
  | some (.terminal t) => some t
  | _ => none

/-- The ROADM with this handle. -/
def roadmAt? (n : Network) (h : Nat) : Option Roadm :=
  match n.nodes[h]? with
  | some (.roadm r) => some r
  | _ => none

/-- The name of the node with this handle. -/
def nodeName (n : Network) (h : Nat) : String := (n.nodes[h]?.map Node.name).getD ""

/-- The carriers that last crossed a span or amplifier location. -/
def componentSignals (n : Network) (loc : Location) : ChannelSet :=
  match loc.kind with
  | .span => (n.spans[loc.id.toNat]?.map (·.signals)).getD []
  | .amplifier => (n.amps[loc.id.toNat]?.map (·.signals)).getD []
  | _ => []

/-- Binds a transmit channel of a terminal to a transceiver and an output port, launching a
new signal for it at the transceiver's symbol rate. Rebinding the same channel to the same
transceiver and port changes nothing. -/
def assocTx (n : Network) (t : Terminal) (trxId ch port : Int) : Except Failure Network := do
  let some trx := t.transceiver? trxId
    | throw (.of .transceiverNotFound (toString trxId ++ " on " ++ q t.name))
  if !Grid.isChannel ch then throw (.of .invalidChannel (toString ch))
  if port < 0 then throw (.of .invalidPort (toString port))
  match t.tx.get? ch with
  | some b =>
    if b.transceiver == trxId && b.port == port then return n
    throw (.of .channelBound ("channel " ++ toString ch ++ " already transmitted by transceiver " ++
      toString b.transceiver))
  | none =>
    if let some (other, _) := t.tx.toList.find? (fun (_, b) => b.transceiver == trxId) then
      throw (.of .transceiverBusy ("transceiver " ++ toString trxId ++ " transmits channel " ++
        toString other))
    let s ← Signal.create ch trx.effectiveSymbolRate
    let i := n.signals.size
    pure ({ n with signals := n.signals.push s }.modifyTerminal t.handle fun t =>
      { t with tx := t.tx.insert ch ⟨trxId, port, i, false⟩ })

/-- Resets a link: every signal forgets the link's components and everything after them,
and the components forget their carriers; the amplifiers return to their configured gain. -/
def resetLink (n : Network) (name : String) : Except Failure Network := do
  let l ← n.link name
  let n := l.locations.foldl (fun n loc =>
    (n.componentSignals loc).foldl (fun n c => n.modifySignal c.sig (·.forget loc)) n) n
  let n := match l.boost with
    | some b => n.modifyAmp b Amplifier.reset
    | none => n
  pure (l.hops.foldl (fun n h =>
    let n := n.modifySpan h.span fun s => { s with signals := [] }
    match h.amplifier with
    | some a => n.modifyAmp a Amplifier.reset
    | none => n) n)

/-- Resets a line terminal: its transmitted signals are switched off and forget their paths,
and its bindings, port state and reports are cleared. -/
def resetTerminal (n : Network) (t : Terminal) : Network :=
  let n := t.tx.values.foldl (fun n b => n.modifySignal b.signal fun s => { s.clearPath with active := false }) n
  n.modifyTerminal t.handle Terminal.clear

/-- Resets a node. -/
def resetNode (n : Network) (nd : Node) : Network :=
  match nd with
  | .terminal t => n.resetTerminal t
  | .roadm r => n.modifyRoadm r.handle Roadm.reset

/-- Resets every node, amplifier and span. -/
def reset (n : Network) : Network :=
  let n := n.nodes.toList.foldl (fun n nd => n.resetNode nd) n
  { n with amps := n.amps.map Amplifier.reset, spans := n.spans.map fun s => { s with signals := [] } }

/-- Hands the reports of every line terminal to a listener from now on. -/
def listenAll (n : Network) : Network :=
  { n with nodes := n.nodes.map fun | .terminal t => .terminal { t with listening := true } | nd => nd }

end Network

end WdmNet
