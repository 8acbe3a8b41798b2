import WdmNet.Topology.Description
import WdmNet.Twin
/-!
From descriptions to networks and back.

`build` validates a description and adds its components in dependency order: amplifiers,
terminals, ROADMs, links; the first refusal is the answer, named after the component.
`apply` installs a control section on a network (rules, VOA targets, transmit and receive
bindings, then the terminals to turn on) and stops at the first failure. `describe` reads a
network's configuration back as a description; building it and applying its control section
reproduces the configuration.
-/

namespace WdmNet

/-- The network configuration of a described link. -/
def LinkDesc.toConfig (l : LinkDesc) : LinkConfig :=
  ⟨l.name, l.src, l.dst, l.outPort, l.inPort, l.boost,
   (l.spans.getD []).map fun s => (s.span, s.amplifier), l.srs⟩

/-- Adds the items of a list in order, naming the item in a refusal. -/
def addAll {α : Type} (n : Network) (items : List α) (label : α → String)
    (add : Network → α → Except Failure (Network × Nat)) : Except Failure Network :=
  items.foldlM (fun n x => match add n x with
    | .ok (n, _) => .ok n
    | .error e => .error (e.wrap (label x))) n

/-- Builds the network a description describes, without its control section. -/
def Description.build (d : Description) (maxSwitches : Nat) : Except Failure Network := do
  d.validate
  let n := Network.empty maxSwitches
  let n ← addAll n d.amplifiers (fun a => "amplifier " ++ q a.name) fun n a => n.addAmplifier a.name a.config
  let n ← addAll n d.terminals (fun t => "terminal " ++ q t.name) fun n t => n.addTerminal t.name t.transceivers
  let n ← addAll n d.roadms (fun r => "roadm " ++ q r.name) fun n r => n.addRoadm r.name r.config
  addAll n d.links (fun l => "link " ++ l.src ++ "->" ++ l.dst) fun n l => n.addLink l.toConfig

/-- Builds from a description that may be missing. -/
def buildDescription : Option Description → (maxSwitches : Nat) → Except Failure Network
  | none, _ => .error (.of .invalidDescription "nil description")
  | some d, m => d.build m

/-- An informational log record. -/
def infoRecord (msg : String) (attrs : List Log.Attr) : Event := .logged ⟨.info, msg, attrs⟩

/-- Runs steps that may fail, in order, stopping at the first failure. -/
def Outcome.andThen (o : Outcome) (next : Network → Outcome) : Outcome :=
  match o.error with
  | some _ => o
  | none =>
    let o' := next o.net
    ⟨o'.net, o.events ++ o'.events, o'.error⟩

/-- Applies the items of a list in order. -/
def applyAll {α : Type} (n : Network) (items : List α) (step : Network → α → Outcome) : Outcome :=
  items.foldl (fun o x => o.andThen (step · x)) ⟨n, [], none⟩

/-- A change that may fail, as an outcome. -/
def Outcome.ofStep (n : Network) (r : Except Failure Network) : Outcome := Outcome.ofExcept n r

/-- Installs a control section: rules, VOA targets, bindings, then the terminals to turn on;
it stops at the first failure and the network stays as it is then. -/
def Control.apply (c : Control) (n : Network) : Outcome :=
  let setup := applyAll n c.switchRules (fun n r => .ofStep n (do
    let roadm ← n.roadm r.roadm
    match roadm.installRule r.id r.inPort r.outPort (r.channels.getD []) with
    | .ok x => pure (n.setNode x.handle (.roadm x))
    | .error e => throw (e.wrap ("roadm " ++ q r.roadm))))
  let setup := setup.andThen fun n => applyAll n c.voa (fun n v => .ofStep n (do
    let roadm ← n.roadm v.roadm
    match roadm.configureVoa v.channel v.outPort v.powerDbm with
    | .ok x => pure (n.setNode x.handle (.roadm x))
    | .error e => throw (e.wrap ("roadm " ++ q v.roadm))))
  let setup := setup.andThen fun n => applyAll n c.tx (fun n b => .ofStep n (do
    let t ← n.terminal b.terminal
    match n.assocTx t b.transceiver b.channel b.port with
    | .ok x => pure x
    | .error e => throw (e.wrap ("terminal " ++ q b.terminal))))
  let setup := setup.andThen fun n => applyAll n c.rx (fun n b => .ofStep n (do
    let t ← n.terminal b.terminal
    match t.assocRx b.transceiver b.channel b.port with
    | .ok x => pure (n.setNode x.handle (.terminal x))
    | .error e => throw (e.wrap ("terminal " ++ q b.terminal))))
  let setup := setup.andThen fun n =>
    ⟨n, [infoRecord "control section applied"
      [.int "switch_rules" c.switchRules.length, .int "voa" c.voa.length,
       .int "tx" c.tx.length, .int "rx" c.rx.length]], none⟩
  setup.andThen fun n => applyAll n c.turnOn fun n name =>
    match n.terminal name with
    | .error e => .refused n e
    | .ok _ =>
      let o := n.turnOn name c.safe
      match o.error with
      | some e => { o with error := some (e.wrap ("turn on " ++ q name)) }
      | none =>
        let failed := ((o.net.terminal name).toOption.map (·.failedChannels.length)).getD 0
        { o with events := o.events ++
          [infoRecord "terminal turned on" [.str "terminal" name, .int "failed_channels" failed]] }

/-- Applies a control section that may be missing. -/
def applyControl : Option Control → Network → Outcome
  | none, n => ⟨n, [], none⟩
  | some c, n => c.apply n

/-- The configuration of a network as a description; the control section is present when
there is a rule, a VOA target or a binding, and lists the terminals with an active channel
to turn on. -/
def Network.describe (n : Network) : Description :=
  let ampName (h : Option Nat) : String :=
    match h with
    | some h => (n.amps[h]?.map (·.name)).getD ""
    | none => ""
  let amplifiers := n.amps.toList.map fun a =>
    ⟨a.name, { a.config with targetGainDb := a.targetGainDb, noiseFigureDb := some a.noiseFigureDb }⟩
  let step := fun (acc : List TerminalDesc × List RoadmDesc × Control) (nd : Node) =>
    let (ts, rs, ctl) := acc
    match nd with
    | .terminal t =>
      let tx := t.tx.toList.map fun (ch, b) => (BindingDesc.mk t.name b.transceiver ch b.port, b.active)
      let rx := t.rx.toList.map fun (ch, b) => BindingDesc.mk t.name b.transceiver ch b.port
      (ts ++ [⟨t.name, t.transceivers⟩], rs,
       { ctl with tx := ctl.tx ++ tx.map (·.1), rx := ctl.rx ++ rx,
                  turnOn := if tx.any (·.2) then ctl.turnOn ++ [t.name] else ctl.turnOn })
    | .roadm r =>
      (ts, rs ++ [⟨r.name, r.config⟩],
       { ctl with
         switchRules := ctl.switchRules ++ r.switchRules.map fun rule =>
           ⟨r.name, rule.id, rule.inPort, rule.outPort, some rule.channels⟩
         voa := ctl.voa ++ r.voaSettings.map fun (p, ch, dbm) => ⟨r.name, ch, p, dbm⟩ })
  let (terminals, roadms, ctl) :=
    n.nodes.toList.foldl step ([], [], ⟨[], [], [], [], [], false⟩)
  let links := n.links.toList.map fun l =>
    ⟨l.name, l.srcName, l.dstName, l.outPort, l.inPort, ampName l.boost,
     if l.hops.isEmpty then none
     else some (l.hops.map fun h => ⟨(n.spans[h.span]?.map (·.config)).getD default, ampName h.amplifier⟩),
     l.raman.name⟩
  let hasControl := ctl.switchRules.length + ctl.voa.length + ctl.tx.length + ctl.rx.length > 0
  ⟨"", amplifiers, terminals, roadms, links, if hasControl then some ctl else none⟩

end WdmNet
