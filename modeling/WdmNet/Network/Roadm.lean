import Std.Data.TreeMap
import WdmNet.Network.Signal
import WdmNet.Text.Blank
import WdmNet.Decimal.Notation
/-!
Reconfigurable optical add-drop multiplexers: the switch table and the port state.

A switch rule sends a set of channels arriving on one input port to one output port. The
switch table keeps the rules by id and, for each pair of input port and channel, the rule
that routes it; two rules never route the same channel of the same input. A VOA target caps
the power of a channel on an output port; without one, the ROADM's leveling power (if
configured) caps every channel.

Between passes the ROADM remembers, per port, what arrived (`inSets`), what it made of each
input after its preamp (`inProc`), what it sent out (`outSets`) and, per output, which input
each channel came from (`outSrc`). An input port whose arrivals changed is pending until the
ROADM switches again.
-/

namespace WdmNet

/-- The configuration of a ROADM. -/
structure RoadmConfig where
  insertionLossDb : Float
  levelingPowerDbm : Option Float
  /-- Preamp amplifier names by input port, sorted by port. -/
  preamps : List (Int × String)
  /-- Boost amplifier names by output port, sorted by port. -/
  boosts : List (Int × String)
  deriving Repr, Inhabited

/-- A rule sending channels from an input port to an output port. -/
structure SwitchRule where
  id : String
  inPort : Int
  outPort : Int
  /-- Sorted, without repetitions. -/
  channels : List Int
  deriving DecidableEq, Repr, Inhabited

/-- A port together with a channel. -/
structure PortChannel where
  port : Int
  channel : Int
  deriving DecidableEq, Repr, Ord

/-- A set of ports. -/
abbrev PortSet := Std.TreeMap Int Unit

/-- A ROADM: its switch table, VOA targets and port state. -/
structure Roadm where
  handle : Nat
  name : String
  config : RoadmConfig
  /-- Preamp amplifier handles by input port. -/
  preamps : Std.TreeMap Int Nat
  /-- Boost amplifier handles by output port. -/
  boosts : Std.TreeMap Int Nat
  rules : Std.TreeMap String SwitchRule
  /-- The rule id routing each (input port, channel). -/
  route : Std.TreeMap PortChannel String
  /-- VOA targets by (output port, channel), dBm. -/
  voa : Std.TreeMap PortChannel Float
  inSets : Std.TreeMap Int ChannelSet
  inProc : Std.TreeMap Int ChannelSet
  portPass : Std.TreeMap Int Nat
  pending : PortSet
  outSets : Std.TreeMap Int ChannelSet
  /-- For each output port, the input port each channel came from. -/
  outSrc : Std.TreeMap Int (Std.TreeMap Int Int)
  busy : Bool

/-- Puts an integer where it belongs in a strictly increasing list, unless it is there
already. -/
def insertDedup (x : Int) : List Int → List Int
  | [] => [x]
  | y :: ys => if x < y then x :: y :: ys else if x = y then y :: ys else y :: insertDedup x ys

/-- Sorts a list of integers and drops repetitions. -/
def sortDedup (xs : List Int) : List Int := xs.foldr insertDedup []

namespace Roadm

/-- A ROADM without rules, targets or port state. -/
def create (handle : Nat) (name : String) (cfg : RoadmConfig) : Roadm :=
  { handle, name, config := cfg, preamps := {}, boosts := {}, rules := {}, route := {},
    voa := {}, inSets := {}, inProc := {}, portPass := {}, pending := {}, outSets := {},
    outSrc := {}, busy := false }

/-- Forgets rules, targets and port state; preamps and boosts stay. -/
def reset (r : Roadm) : Roadm :=
  { r with rules := {}, route := {}, voa := {}, inSets := {}, inProc := {}, portPass := {},
           pending := {}, outSets := {}, outSrc := {}, busy := false }

/-- Installs a rule under a trimmed id. Reinstalling an identical rule changes nothing; a
different rule under a taken id, or a channel already routed from the same input, is
refused. -/
def installRule (r : Roadm) (ruleId : String) (inPort outPort : Int) (channels : List Int) :
    Except Failure Roadm := do
  let id := Text.trimSpace ruleId
  if id.isEmpty then throw (.of .invalidConfig ("empty switch rule ID on " ++ q r.name))
  if inPort < 0 || outPort < 0 then
    throw (.of .invalidPort ("rule " ++ q id ++ " ports " ++ toString inPort ++ "->" ++
      toString outPort))
  if channels.isEmpty then throw (.of .invalidChannel ("rule " ++ q id ++ " has no channels"))
  let chs := sortDedup channels
  for ch in chs do
    if !Grid.isChannel ch then
      throw (.of .invalidChannel (toString ch ++ " in rule " ++ q id))
  let rule : SwitchRule := ⟨id, inPort, outPort, chs⟩
  match r.rules.get? id with
  | some existing =>
    if existing == rule then pure r
    else throw (.of .switchRuleExists (q id ++ " on " ++ q r.name))
  | none =>
    for ch in chs do
      match r.route.get? ⟨inPort, ch⟩ with
      | some other =>
        throw (.of .switchRuleConflict ("channel " ++ toString ch ++ " on in port " ++
          toString inPort ++ " already routed by " ++ q other))
      | none => pure ()
    pure { r with
      rules := r.rules.insert id rule
      route := chs.foldl (fun m ch => m.insert ⟨inPort, ch⟩ id) r.route }

/-- Takes a rule out of the table and out of its output's carriers: a carrier of one of the
rule's channels stays only if it is known to come from another input. -/
def removeRule (r : Roadm) (rule : SwitchRule) : Roadm :=
  let route := rule.channels.foldl (fun m ch => m.erase ⟨rule.inPort, ch⟩) r.route
  let outSets := match r.outSets.get? rule.outPort with
    | some set =>
      let src := (r.outSrc.get? rule.outPort).getD {}
      r.outSets.insert rule.outPort (set.filter fun c =>
        !rule.channels.contains c.channel ||
          (match src.get? c.channel with
           | some i => i != rule.inPort
           | none => false))
    | none => r.outSets
  { r with route, outSets, rules := r.rules.erase rule.id }

/-- Deletes the rule with this id. -/
def deleteRule (r : Roadm) (ruleId : String) : Except Failure Roadm :=
  match r.rules.get? ruleId with
  | some rule => .ok (r.removeRule rule)
  | none => .error (.of .switchRuleNotFound (q ruleId ++ " on " ++ q r.name))

/-- Deletes every rule, in id order. -/
def deleteAllRules (r : Roadm) : Roadm :=
  r.rules.keys.foldl (fun acc id =>
    match acc.rules.get? id with
    | some rule => acc.removeRule rule
    | none => acc) r

/-- Moves a rule to another output port. -/
def updateRule (r : Roadm) (ruleId : String) (newOut : Int) : Except Failure Roadm :=
  match r.rules.get? ruleId with
  | none => .error (.of .switchRuleNotFound (q ruleId ++ " on " ++ q r.name))
  | some rule =>
    if newOut < 0 then
      .error (.of .invalidPort ("rule " ++ q ruleId ++ " out port " ++ toString newOut))
    else if newOut == rule.outPort then .ok r
    else
      let updated := { rule with outPort := newOut }
      let r := r.removeRule rule
      .ok { r with
        rules := r.rules.insert ruleId updated
        route := updated.channels.foldl (fun m ch => m.insert ⟨updated.inPort, ch⟩ ruleId) r.route }

/-- The rules in id order. -/
def switchRules (r : Roadm) : List SwitchRule := r.rules.values

/-- Sets the VOA target of a channel on an output port, dBm. -/
def configureVoa (r : Roadm) (ch outPort : Int) (powerDbm : Float) : Except Failure Roadm :=
  if !Grid.isChannel ch then .error (.of .invalidChannel (toString ch))
  else if outPort < 0 then .error (.of .invalidPort (toString outPort))
  else if powerDbm.isNaN then
    .error (.of .invalidConfig ("VOA target for channel " ++ toString ch))
  else .ok { r with voa := r.voa.insert ⟨outPort, ch⟩ powerDbm }

/-- The VOA targets as (output port, channel, dBm), by port and then channel. -/
def voaSettings (r : Roadm) : List (Int × Int × Float) :=
  r.voa.toList.map fun (k, v) => (k.port, k.channel, v)

/-- The carriers that arrived at an input port (`entry`) or left an output port. -/
def portSet (r : Roadm) (port : Int) (entry : Bool) : ChannelSet :=
  ((if entry then r.inSets else r.outSets).get? port).getD []

/-- The rule routing a channel arriving on an input port. -/
def ruleFor (r : Roadm) (inPort ch : Int) : Option SwitchRule :=
  match r.route.get? ⟨inPort, ch⟩ with
  | some id => r.rules.get? id
  | none => none

/-- Stores what arrived on an input port in a pass; the port becomes pending unless the same
pass already delivered the same carriers there. -/
def accept (r : Roadm) (pass : Nat) (port : Int) (set : ChannelSet) : Roadm :=
  let same := r.portPass.get? port == some pass && ((r.inSets.get? port).getD []).sameAs set
  { r with
    pending := if same then r.pending else r.pending.insert port ()
    portPass := r.portPass.insert port pass
    inSets := r.inSets.insert port set }

/-- The pending input ports in order; none are pending afterwards. -/
def takePending (r : Roadm) : List Int × Roadm := (r.pending.keys, { r with pending := {} })

/-- The output ports that the given inputs feed: those of their rules and those that carry a
channel from one of them; sorted, without repetitions. -/
def affectedOutputs (r : Roadm) (inPorts : List Int) : List Int :=
  let byRule := r.rules.values.filterMap fun rule =>
    if inPorts.contains rule.inPort then some rule.outPort else none
  let bySource := r.outSrc.toList.filterMap fun (out, src) =>
    if src.toList.any (fun (_, i) => inPorts.contains i) then some out else none
  sortDedup (byRule ++ bySource)

/-- The cap on a channel's power at an output port: its VOA target, else the leveling
power. -/
def voaTarget (r : Roadm) (outPort ch : Int) : Option Float :=
  match r.voa.get? ⟨outPort, ch⟩ with
  | some t => some t
  | none => r.config.levelingPowerDbm

end Roadm

end WdmNet
