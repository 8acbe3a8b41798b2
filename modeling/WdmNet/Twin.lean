import WdmNet.Network.Propagation
import WdmNet.Network.Monitor
import WdmNet.Network.Route
/-!
The twin: control commands and queries on one network.

Every command that changes the network is a `Command`; `Network.execute` runs it and yields
the network afterwards, the events of the pass it ran (if any) and its error. Commands are
named by the operation names that logs and metrics use. After each command the twin reports
the size of the network (`counts`).
-/

namespace WdmNet

/-- A control command. -/
inductive Command where
  | installRule (roadm id : String) (inPort outPort : Int) (channels : List Int)
  /-- Deletes one rule, or all rules of the ROADM when the id is empty. -/
  | deleteRule (roadm id : String)
  | updateRule (roadm id : String) (outPort : Int)
  | configureVoa (roadm : String) (channel outPort : Int) (powerDbm : Float)
  | assocTx (terminal : String) (transceiver channel port : Int)
  | assocRx (terminal : String) (transceiver channel port : Int)
  | turnOn (terminal : String) (safe : Bool)
  /-- Switches off the channels, all of them when the list is empty. -/
  | turnOff (terminal : String) (channels : List Int)
  | resetNode (name : String)
  | setGain (amplifier : String) (gainDb : Float)
  | resetAmplifier (amplifier : String)
  | resetLink (link : String)
  | resetNetwork

namespace Command

/-- The operation name of a command. -/
def opName : Command → String
  | installRule .. => "install_switch_rule"
  | deleteRule .. => "delete_switch_rule"
  | updateRule .. => "update_switch_rule"
  | configureVoa .. => "configure_voa"
  | assocTx .. => "assoc_tx"
  | assocRx .. => "assoc_rx"
  | turnOn .. => "turn_on"
  | turnOff .. => "turn_off"
  | resetNode .. => "reset_node"
  | setGain .. => "set_gain"
  | resetAmplifier .. => "reset_amplifier"
  | resetLink .. => "reset_link"
  | resetNetwork => "reset_network"

end Command

/-- An outcome without a pass. -/
def Outcome.ofExcept (n : Network) : Except Failure Network → Outcome
  | .ok n => ⟨n, [], none⟩
  | .error e => ⟨n, [], some e⟩

namespace Network

/-- Changes a ROADM found by name. -/
def withRoadm (n : Network) (name : String) (f : Roadm → Except Failure Roadm) :
    Except Failure Network := do
  let r ← n.roadm name
  let r ← f r
  pure (n.setNode r.handle (.roadm r))

/-- Changes an amplifier found by name. -/
def withAmplifier (n : Network) (name : String) (f : Amplifier → Except Failure Amplifier) :
    Except Failure Network := do
  let a ← n.amplifier name
  let a ← f a
  pure { n with amps := n.amps.set! a.handle a }

/-- Runs a command. -/
def execute (n : Network) : Command → Outcome
  | .installRule roadm id i o chs => .ofExcept n (n.withRoadm roadm (·.installRule id i o chs))
  | .deleteRule roadm id =>
    .ofExcept n (n.withRoadm roadm fun r => if id.isEmpty then .ok r.deleteAllRules else r.deleteRule id)
  | .updateRule roadm id o => .ofExcept n (n.withRoadm roadm (·.updateRule id o))
  | .configureVoa roadm ch o p => .ofExcept n (n.withRoadm roadm (·.configureVoa ch o p))
  | .assocTx terminal trx ch port =>
    .ofExcept n (do let t ← n.terminal terminal; n.assocTx t trx ch port)
  | .assocRx terminal trx ch port =>
    .ofExcept n (do
      let t ← n.terminal terminal
      let t ← t.assocRx trx ch port
      pure (n.setNode t.handle (.terminal t)))
  | .turnOn terminal safe => n.turnOn terminal safe
  | .turnOff terminal chs => n.turnOff terminal chs
  | .resetNode name => .ofExcept n (do let nd ← n.node name; pure (n.resetNode nd))
  | .setGain amp db => .ofExcept n (n.withAmplifier amp (·.setGain db))
  | .resetAmplifier amp => .ofExcept n (n.withAmplifier amp fun a => .ok a.reset)
  | .resetLink link => .ofExcept n (n.resetLink link)
  | .resetNetwork => ⟨n.reset, [], none⟩

/-- The number of nodes, links, amplifiers, switch rules and active channels. -/
def counts (n : Network) : List Nat :=
  [n.nodes.size, n.links.size, n.amps.size,
   (n.roadms.map (·.rules.size)).foldl (· + ·) 0,
   (n.terminals.map (·.activeChannels.length)).foldl (· + ·) 0]

/-- The latest reports of every terminal that has any, in terminal order. -/
def allReports (n : Network) : List (String × List Report) :=
  n.terminals.filterMap fun t => if t.reports.isEmpty then none else some (t.name, t.reports.values)

/-- The monitor of an amplifier, a span of a link or a node port. -/
def monitorOf (n : Network) (kind name : String) (index : Int) (mode : Mode) : Except Failure Monitor :=
  if kind == "amplifier" then n.amplifierMonitor name
  else if kind == "span" then n.spanMonitor name index
  else if kind == "port" then n.portMonitor name index mode
  else .error (.of .unknownMonitor (q kind))

/-- The readings of an amplifier, a span of a link or a node port. -/
def monitor (n : Network) (kind name : String) (index : Int) (mode : Mode) :
    Except Failure (List Reading) := do
  let m ← n.monitorOf kind name index mode
  pure (m.readings n.signals mode)

/-- The signals at a port of a node, entering or leaving as the mode says. -/
def portSignals (n : Network) (name : String) (port : Int) (mode : Mode) : Except Failure (List Signal) := do
  let nd ← n.node name
  pure ((nd.portSet port mode.isEntry).map fun c => n.signal c.sig)

end Network

/-- What a command inherits from the call that runs it: the attributes of the call's logger,
which the records of a pass carry before their own, and whether a span of the call encloses
the span of the pass. -/
structure CallScope where
  attrs : List Log.Attr
  enclosed : Bool
  deriving Repr, Inhabited

/-- No call around a command. -/
def CallScope.bare : CallScope := ⟨[], false⟩

/-- An event of a pass that ran inside a call. -/
def Event.inCall (s : CallScope) : Event → Event
  | .logged r => .logged (r.within s.attrs)
  | .traced sp => .traced (if sp.hasParent then sp else { sp with hasParent := s.enclosed })
  | e => e

/-- A network under control: commands run one at a time, a failed command is logged as a
warning, and after each command the counts are pushed to the metrics recorder. -/
structure Twin where
  net : Network
  /-- The counts last pushed. -/
  counts : List Nat

namespace Twin

/-- A twin around a network; the counts are pushed at once. -/
def create (n : Network) : Twin := ⟨n, n.counts⟩

/-- The warning a failed command leaves. -/
def failureRecord (c : Command) (e : Failure) : Event :=
  .logged ⟨.warn, "control command failed", [.str "op" c.opName, .str "error" e.message]⟩

/-- Runs a command inside a call. -/
def executeIn (t : Twin) (s : CallScope) (c : Command) : Twin × Outcome :=
  let o := t.net.execute c
  let events := o.events.map (Event.inCall s)
  let events := match o.error with
    | some e => events ++ [failureRecord c e]
    | none => events
  (⟨o.net, o.net.counts⟩, { o with events })

/-- Runs a command. -/
def execute (t : Twin) (c : Command) : Twin × Outcome := t.executeIn .bare c

end Twin

end WdmNet
