import Std.Data.TreeMap
import WdmNet.Network.Basic
import WdmNet.Network.Event
/-!
The propagation engine.

A pass starts at a line terminal: each of the given output ports is seeded with the carriers
of its active transmitters, and the carriers travel link by link. On a link they cross the
boost amplifier, then each span and the amplifier after it. At a ROADM they are stored as the
arrivals of the input port; carriers that already crossed that ROADM are dropped as a loop.
At a line terminal they are stored and, once the fan-out that reached it is complete, turned
into reception reports.

A ROADM switches when the last delivery of a fan-out reaches it and it is not already
switching further up: while some input port is pending it runs the port's preamp, rebuilds
every output that the pending inputs feed (fabric loss, VOA leveling, collision check, boost
amplifier) and fans the outputs out in turn. Deliveries that reach a ROADM while it is
switching only make ports pending; the switching loop picks them up. Each ROADM may switch at
most `maxSwitches` times per pass; one more stops it with a propagation-limit error.

Recursion is bounded without trusting the network: a ROADM is entered only when it is not
already switching, so the nesting depth is at most the number of nodes, and each switching
loop runs at most `maxSwitches + 1` rounds. The delivery functions take the switching of a
ROADM as a parameter, and `switchRoadm` ties the knot by recursion on a depth budget; the
depth budget and the round budget of the loop are never the reason a pass stops.

Main definitions: `fanOut`, `switchRoadm`, `launch`, `Network.turnOn`, `Network.turnOff`.
-/

namespace WdmNet

/-- The state of one pass: its identity, the errors so far, the switch count of each ROADM
and the events in order. -/
structure Pass where
  id : Nat
  kind : String
  origin : String
  safe : Bool
  errors : Array Failure
  switches : Std.TreeMap Nat Nat
  events : Array Event

/-- A network in the middle of a pass. -/
structure Flow where
  net : Network
  pass : Pass

namespace Flow

/-- Appends an event. -/
def emit (f : Flow) (e : Event) : Flow := { f with pass := { f.pass with events := f.pass.events.push e } }

/-- The attributes every record of the pass carries. -/
def passAttrs (p : Pass) : List Log.Attr :=
  [⟨"pass", .count p.id⟩, .str "pass_kind" p.kind, .str "origin" p.origin, .bool "safe" p.safe]

/-- Writes a debug record of the pass. -/
def debug (f : Flow) (msg : String) (attrs : List Log.Attr) : Flow :=
  f.emit (.logged ⟨.debug, msg, passAttrs f.pass ++ attrs⟩)

/-- Notes that a node dropped a channel. -/
def drop (f : Flow) (node : String) (reason : DropReason) (ch : Int) : Flow :=
  (f.emit (.dropped node reason)).debug "channel dropped"
    [.str "node" node, .str "reason" reason.name, .int "channel" ch]

/-- Adds an error to the pass. -/
def fail (f : Flow) (e : Failure) : Flow := { f with pass := { f.pass with errors := f.pass.errors.push e } }

/-- A channel came back to a node: it is dropped, and unless the pass is safe that is an
error. -/
def loop (f : Flow) (node : String) (ch : Int) : Flow :=
  let f := f.drop node .loop ch
  if f.pass.safe then f
  else f.fail (.of .routingLoop ("channel " ++ toString ch ++ " re-entered " ++ q node))

/-- Changes the network. -/
def update (f : Flow) (g : Network → Network) : Flow := { f with net := g f.net }

/-- Records a visit on a carrier's signal. -/
def visit (f : Flow) (c : Carrier) (loc : Location) (exit : SignalState) : Flow :=
  f.update (·.modifySignal c.sig (·.record c.recordedAt loc f.pass.id c.state exit))

/-- Records every carrier at a location with unchanged state; the carriers are now there. -/
def stamp (f : Flow) (loc : Location) (set : ChannelSet) : Flow × ChannelSet :=
  (set.foldl (fun f c => f.visit c loc c.state) f, set.map ({ · with recordedAt := loc }))

/-- Records every carrier of `set` at a location, leaving with the state of the matching
carrier of `out`. -/
def visitAll (f : Flow) (loc : Location) (set out : ChannelSet) : Flow :=
  (set.zip out).foldl (fun f (c, o) => f.visit c loc o.state) f

/-- Runs a set through an amplifier: gain control, then gain and ASE per channel. -/
def amplify (f : Flow) (h : Nat) (set : ChannelSet) : Flow × ChannelSet :=
  match f.net.amps[h]? with
  | none => (f, set)
  | some a =>
    if set.isEmpty then (f.update (·.modifyAmp h ({ · with signals := [] })), [])
    else
      let (a, iters) := a.adjustGain set
      let f := f.emit (.adjusted a.name iters a.systemGainDb)
      let loc := a.location
      let out := set.map fun c => { c with state := a.amplifyState c, recordedAt := loc }
      let f := f.visitAll loc set out
      (f.update (·.modifyAmp h fun _ => { a with signals := out }), out)

/-- Runs a set through a span under a Raman model. -/
def transmit (f : Flow) (h : Nat) (m : RamanModel) (set : ChannelSet) : Flow × ChannelSet :=
  match f.net.spans[h]? with
  | none => (f, set)
  | some s =>
    if set.isEmpty then (f.update (·.modifySpan h ({ · with signals := [] })), [])
    else
      let loc := s.location
      let out := (set.zip (s.transmit m set)).map fun (c, st) => { c with state := st, recordedAt := loc }
      let f := f.visitAll loc set out
      (f.update (·.modifySpan h ({ · with signals := out })), out)

/-- Runs a set through the components of a link: boost, then each span and its amplifier. -/
def traverse (f : Flow) (l : Link) (set : ChannelSet) : Flow × ChannelSet :=
  let start := match l.boost with
    | some b => f.amplify b set
    | none => (f, set)
  l.hops.foldl (fun (f, cur) h =>
    let (f, cur) := f.transmit h.span l.raman cur
    match h.amplifier with
    | some a => f.amplify a cur
    | none => (f, cur)) start

/-- Notes the arrivals of an input port that no rule routes as dropped. -/
def dropUnrouted (f : Flow) (r : Roadm) (inPort : Int) (set : ChannelSet) : Flow :=
  set.foldl (fun f c =>
    if (r.ruleFor inPort c.channel).isNone then f.drop r.name .noRule c.channel else f) f

/-- What a ROADM makes of an input port's arrivals: channels without a rule are noted as
dropped, and the port's preamp runs unless the arriving link already ends in it. -/
def preamplify (f : Flow) (r : Roadm) (inPort : Int) : Flow × ChannelSet :=
  let set := r.portSet inPort true
  let f := f.dropUnrouted r inPort set
  match r.preamps.get? inPort with
  | none => (f, set)
  | some a =>
    match f.net.inboundLink r.handle inPort with
    | some l => if l.lastAmplifier == some a then (f, set) else f.amplify a set
    | none => f.amplify a set

/-- Fabric loss and a VOA cap, over any number type with decibel conversions: the state is
scaled by the loss, then, when there is a target and the power in dBm exceeds it, scaled down
by the excess. -/
def levelWith {α σ : Type} [Sub α] [Neg α] [LT α] [DecidableLT α] [OfNat α 0]
    (scale : σ → α → σ) (power : σ → α) (dbToLinear wattsToDbm : α → α) (loss : α)
    (target : Option α) (st : σ) : σ :=
  let st := scale st (dbToLinear (-loss))
  match target with
  | some t =>
    let excess := wattsToDbm (power st) - t
    if excess > 0 then scale st (dbToLinear (-excess)) else st
  | none => st

/-- The power of a state after fabric loss and the VOA cap of its output. -/
def leveled (r : Roadm) (out : Int) (ch : Int) (st : SignalState) : SignalState :=
  levelWith SignalState.scale SignalState.power Units.dbToLinear Units.wattsToDbm
    r.config.insertionLossDb (r.voaTarget out ch) st

/-- What one output port of a ROADM gets from every processed input, in input port order:
each active channel routed there passes the fabric and its VOA and is recorded at the port; a
channel that a lower input already sends there is dropped as a collision. Returns the
carriers, unsorted, and the input each channel came from. -/
def collectOutput (f : Flow) (r : Roadm) (rh : Nat) (out : Int) :
    Flow × ChannelSet × Std.TreeMap Int Int :=
  let loc : Location := ⟨.nodeOut, rh, out⟩
  let items := r.inProc.toList.flatMap fun (i, set) => set.map (i, ·)
  items.foldl (fun (acc : Flow × ChannelSet × Std.TreeMap Int Int) (i, c) =>
    let (f, set, src) := acc
    match r.ruleFor i c.channel with
    | none => acc
    | some rule =>
      if rule.outPort != out || !(f.net.signal c.sig).active then acc
      else if src.contains c.channel then (f.drop r.name .collision c.channel, set, src)
      else
        let st := leveled r out c.channel c.state
        (f.visit c loc st, set ++ [{ c with state := st, recordedAt := loc }], src.insert c.channel i))
    (f, [], {})

/-- Runs the boost amplifier of an output port of a ROADM, unless the outgoing link starts
with it. -/
def boostOutput (f : Flow) (r : Roadm) (rh : Nat) (out : Int) (set : ChannelSet) :
    Flow × ChannelSet :=
  match r.boosts.get? out with
  | some b =>
    match f.net.outboundLink rh out with
    | some l => if l.boost == some b then (f, set) else f.amplify b set
    | none => f.amplify b set
  | none => (f, set)

/-- Rebuilds one output port of a ROADM from every processed input (`collectOutput`), sorted
by channel, then runs the port's boost (`boostOutput`); the port's set and sources are
stored. -/
def switchOutput (f : Flow) (rh : Nat) (out : Int) : Flow × ChannelSet :=
  match f.net.roadmAt? rh with
  | none => (f, [])
  | some r =>
    let (f, set, src) := f.collectOutput r rh out
    let (f, set) := f.boostOutput r rh out set.sortByChannel
    let f := f.update (·.modifyRoadm rh fun r => { r with
      outSets := r.outSets.insert out set
      outSrc := if src.isEmpty then r.outSrc.erase out else r.outSrc.insert out src })
    (f, set)

/-- Notes the carriers that a terminal does not receive on the port as dropped. -/
def dropUnbound (f : Flow) (t : Terminal) (port : Int) (set : ChannelSet) : Flow :=
  set.foldl (fun f c =>
    match t.rx.get? c.channel with
    | some b => if b.port == port then f else f.drop t.name .unbound c.channel
    | none => f.drop t.name .unbound c.channel) f

/-- Tells of a terminal's new reports, port by port: a verdict for each report, a debug
record for each failed one, and the port's reports to the terminal's listener. -/
def announce (f : Flow) (t : Terminal) (byPort : List (Int × List Report)) : Flow :=
  byPort.foldl (fun f (_, reports) =>
    let f := reports.foldl (fun f rep =>
      let f := f.emit (.received t.name rep.ok)
      if rep.ok then f
      else f.debug "channel reception failed"
        [.str "terminal" t.name, .int "channel" rep.channel, .str "reason" rep.reason]) f
    if t.listening then f.emit (.delivered t.name reports) else f) f

/-- Delivers a set to an input port of a line terminal. Channels the port does not receive
are noted as dropped. On the last delivery of a fan-out the terminal reports on its pending
ports, and a listening terminal hands each port's reports on. -/
def deliverTerminal (f : Flow) (th : Nat) (port : Int) (set : ChannelSet) (isLast : Bool) : Flow :=
  match f.net.terminalAt? th with
  | none => f
  | some t =>
    let (f, kept) := f.stamp ⟨.nodeIn, th, port⟩ set
    let f := f.dropUnbound t port kept
    let t := t.accept f.pass.id port kept
    if !isLast then f.update (·.modifyTerminal th fun _ => t)
    else
      let (byPort, t) := t.receive fun i => (f.net.signal i).symbolRate
      (f.update (·.modifyTerminal th fun _ => t)).announce t byPort

/-- Seeds an output port of a terminal with the carriers of its active transmitters, in
channel order. -/
def seed (f : Flow) (th : Nat) (port : Int) : Flow × ChannelSet :=
  match f.net.terminalAt? th with
  | none => (f, [])
  | some t =>
    let set := t.tx.toList.filterMap fun (_, b) =>
      if b.port != port || !b.active then none
      else
        let power := ((t.transceiver? b.transceiver).map (·.powerDbm)).getD 0
        let s := f.net.signal b.signal
        some { sig := b.signal, channel := s.index, frequency := s.frequency,
               symbolRate := s.symbolRate, state := ⟨Units.dbmToWatts power, 0, 0⟩,
               recordedAt := Location.nowhere }
    let (f, set) := f.stamp ⟨.nodeOut, th, port⟩ set
    (f.update (·.modifyTerminal th fun t => { t with outSets := t.outSets.insert port set }), set)

/-- The links of a fan-out with their sets, each marked as the last delivery to its
destination or not. -/
def deliveries : List (Option Link × ChannelSet) → List (Link × ChannelSet × Bool)
  | [] => []
  | (none, _) :: rest => deliveries rest
  | (some l, set) :: rest =>
    (l, set, !rest.any fun (m?, _) => m?.any (·.dst == l.dst)) :: deliveries rest

/-- Drops the carriers whose signal crossed the ROADM before, as loops, and keeps the others
in order. -/
def dropLoops (f : Flow) (r : Roadm) (rh : Nat) (set : ChannelSet) : Flow × ChannelSet :=
  set.foldl (fun (f, kept) c =>
    if (f.net.signal c.sig).visitedNode rh then (f.loop r.name c.channel, kept)
    else (f, kept ++ [c])) (f, ([] : ChannelSet))

/-- Stores a delivery at an input port of a ROADM: carriers that crossed the ROADM before are
dropped as loops, and the others are recorded at the port and accepted there. -/
def acceptAt (f : Flow) (r : Roadm) (rh : Nat) (port : Int) (set : ChannelSet) : Flow :=
  let (f, kept) := f.dropLoops r rh set
  let (f, kept) := f.stamp ⟨.nodeIn, rh, port⟩ kept
  f.update (·.modifyRoadm rh (·.accept f.pass.id port kept))

/-- Delivers a set to an input port of a ROADM (`acceptAt`); the last delivery of a fan-out
makes an idle ROADM switch, by `sw`. -/
def deliverRoadm (sw : Flow → Nat → Flow) (f : Flow) (rh : Nat) (port : Int) (set : ChannelSet)
    (isLast : Bool) : Flow :=
  match f.net.roadmAt? rh with
  | none => f
  | some r =>
    let f := f.acceptAt r rh port set
    if !isLast || r.busy then f else sw f rh

/-- Runs a set over a link and delivers it to the node at its end; a ROADM there switches by
`sw`. -/
def propagateLink (sw : Flow → Nat → Flow) (f : Flow) (l : Link) (set : ChannelSet)
    (isLast : Bool) : Flow :=
  let f := f.emit (.traced (Trace.Span.internal "link/propagate"
    [("link", .str l.name), ("channels", .int set.length), ("is_last_port", .bool isLast)] true))
  let (f, cur) := f.traverse l set
  match f.net.nodes[l.dst]? with
  | some (.roadm _) => f.deliverRoadm sw l.dst l.inPort cur isLast
  | some (.terminal _) => f.deliverTerminal l.dst l.inPort cur isLast
  | none => f

/-- Drops the carriers of the ports of a fan-out that carry no link. -/
def dropUnlinked (f : Flow) (src : Nat) (resolved : List (Option Link × ChannelSet)) : Flow :=
  resolved.foldl (fun f (l?, set) =>
    match l? with
    | none => set.foldl (fun f c => f.drop (f.net.nodeName src) .notConnected c.channel) f
    | some _ => f) f

/-- Sends each port's set over the link leaving it, in port order; the carriers of a port
without a link are dropped. ROADMs that the deliveries leave with pending inputs switch by
`sw`. -/
def fanOut (sw : Flow → Nat → Flow) (f : Flow) (src : Nat) (items : List (Int × ChannelSet)) :
    Flow :=
  let resolved := items.map fun (port, set) => (f.net.outboundLink src port, set)
  let f := f.dropUnlinked src resolved
  (deliveries resolved).foldl (fun f (l, set, isLast) => f.propagateLink sw l set isLast) f

/-- Runs the preamp of each of the given inputs of a ROADM and stores the result as the
input's processed set. -/
def preamplifyInputs (f : Flow) (rh : Nat) (inPorts : List Int) : Flow :=
  inPorts.foldl (fun f i =>
    match f.net.roadmAt? rh with
    | some r =>
      let (f, set) := f.preamplify r i
      f.update (·.modifyRoadm rh fun r => { r with inProc := r.inProc.insert i set })
    | none => f) f

/-- Rebuilds the given outputs of a ROADM in order, with the new set of each. -/
def switchOutputs (f : Flow) (rh : Nat) (outs : List Int) : Flow × List (Int × ChannelSet) :=
  outs.foldl (fun (f, items) o =>
    let (f, set) := f.switchOutput rh o
    (f, items ++ [(o, set)])) (f, ([] : List (Int × ChannelSet)))

/-- One round of switching per pending state, at most `rounds` rounds; `fan` sends the
rebuilt outputs on. A round counts against the ROADM's budget for the pass; one round over
the budget fails the pass and clears the pending inputs instead. -/
def switchLoop (fan : Flow → List (Int × ChannelSet) → Flow) (f : Flow) (rh : Nat) : Nat → Flow
  | 0 => f
  | rounds + 1 =>
    match f.net.roadmAt? rh with
    | none => f
    | some r =>
      if r.pending.isEmpty then f
      else
        let count := f.pass.switches.getD rh 0 + 1
        let f := { f with pass := { f.pass with switches := f.pass.switches.insert rh count } }
        if count > f.net.maxSwitches then
          (f.fail (.of .propagationLimit (q r.name ++ " switched more than " ++
            toString f.net.maxSwitches ++ " times"))).update
            (·.modifyRoadm rh ({ · with pending := {} }))
        else
          let inPorts := r.pending.keys
          let f := f.update (·.modifyRoadm rh ({ · with pending := {} }))
          let f := f.preamplifyInputs rh inPorts
          let outs := ((f.net.roadmAt? rh).map (·.affectedOutputs inPorts)).getD []
          let (f, items) := f.switchOutputs rh outs
          switchLoop fan (fan f items) rh rounds

/-- Switches a ROADM until no input is pending, marking it busy meanwhile; the fan-outs of
its rounds switch further ROADMs with one unit of `depth` less. With no depth left it does
nothing. -/
def switchRoadm : Nat → Flow → Nat → Flow
  | 0, f, _ => f
  | depth + 1, f, rh =>
    let f := f.update (·.modifyRoadm rh ({ · with busy := true }))
    let f := f.switchLoop (fun g items => g.fanOut (switchRoadm depth) rh items) rh
      (f.net.maxSwitches + 2)
    f.update (·.modifyRoadm rh ({ · with busy := false }))

end Flow

/-- What an operation that may run a pass leaves behind: the network, the events of the
pass, and the error if the operation failed. -/
structure Outcome where
  net : Network
  events : List Event
  error : Option Failure

/-- Runs a pass from the given output ports of a terminal. -/
def Network.launch (n : Network) (t : Terminal) (ports : List Int) (safe : Bool) (kind : String) :
    Outcome :=
  let id := n.passSeq + 1
  let n := { n with passSeq := id }
  let f : Flow := ⟨n, ⟨id, kind, t.name, safe, #[], {}, #[]⟩⟩
  let (f, items) := ports.foldl (fun (f, items) port =>
    let (f, set) := f.seed t.handle port
    (f, items ++ [(port, set)])) (f, ([] : List (Int × ChannelSet)))
  let f := f.fanOut (Flow.switchRoadm (n.nodes.size + 1)) t.handle items
  let err := if f.pass.errors.isEmpty then none else some (Failure.join f.pass.errors.toList)
  let span := Trace.Span.internal ("core/" ++ kind)
    [("origin", .str t.name), ("safe", .bool safe), ("pass", .int id)] false
  let f := f.emit (.traced (match err with
    | some e => span.failWith e.message
    | none => span))
  let f := f.emit (.passCompleted kind err)
  let f := f.debug "propagation pass completed"
    [⟨"duration", .duration 0⟩, .str "error" ((err.map (·.message)).getD "")]
  ⟨f.net, f.pass.events.toList, err⟩

/-- An outcome without a pass. -/
def Outcome.refused (n : Network) (e : Failure) : Outcome := ⟨n, [], some e⟩

/-- Switches on every bound channel of a terminal and propagates them. Every output port
with a transmitter must carry a link. A safe pass drops looping channels silently. -/
def Network.turnOn (n : Network) (name : String) (safe : Bool) : Outcome :=
  match n.terminal name with
  | .error e => .refused n e
  | .ok t =>
    if t.tx.isEmpty then .refused n (.of .noTransmitters (q t.name))
    else
      let ports := t.txPorts t.tx.keys
      match ports.find? (fun p => (n.outboundLink t.handle p).isNone) with
      | some p => .refused n (.of .portNotConnected (q t.name ++ " port " ++ toString p))
      | none =>
        let n := t.tx.values.foldl (fun n b => n.modifySignal b.signal ({ · with active := true })) n
        let n := n.modifyTerminal t.handle fun t =>
          { t with tx := t.tx.map fun _ b => { b with active := true } }
        match n.terminalAt? t.handle with
        | some t => n.launch t ports safe "turn_on"
        | none => ⟨n, [], none⟩

/-- Switches off the given channels of a terminal, or all of them when none are given, and
propagates what remains on the ports they used. -/
def Network.turnOff (n : Network) (name : String) (channels : List Int) : Outcome :=
  match n.terminal name with
  | .error e => .refused n e
  | .ok t =>
    let channels := if channels.isEmpty then t.tx.keys else channels
    match channels.find? (fun ch => !t.tx.contains ch) with
    | some ch => .refused n (.of .invalidChannel ("channel " ++ toString ch ++
        " not transmitted by " ++ q t.name))
    | none =>
      let n := channels.foldl (fun n ch =>
        match (n.terminalAt? t.handle).bind (·.tx.get? ch) with
        | some b =>
          let n := n.modifySignal b.signal fun s => { s.clearPath with active := false }
          n.modifyTerminal t.handle fun t => { t with tx := t.tx.insert ch { b with active := false } }
        | none => n) n
      let ports := (t.txPorts channels).filter fun p => (n.outboundLink t.handle p).isSome
      if ports.isEmpty then ⟨n, [], none⟩
      else match n.terminalAt? t.handle with
        | some t => n.launch t ports true "turn_off"
        | none => ⟨n, [], none⟩

end WdmNet
