import WdmNet.Control.Request
import WdmNet.Control.Status
import WdmNet.Twin
import WdmNet.Topology.Build
import WdmNet.Topology.Load
/-!
The control service of the twin.

The service answers fifteen methods. Nine are commands: the request is read (a refused
request is logged at debug level with the reason), the command runs on the twin inside a span
named for its entity type and operation, and a command that succeeded is logged at debug level
with the entity it applied to. Turning channels on or off also runs a command in a span, and
answers the latest reports of every terminal; a routing loop or an exhausted switch budget does
not fail the call but is logged as a warning and answered as the propagation error next to the
reports. Resetting the network is logged at info level. The three queries answer the readings
at a node port or a monitor point, or the description of the network.

A failure is answered with the status its kinds call for (`codeOf`). A service without a twin
answers every method `Unavailable`.
-/

namespace WdmNet.Control

/-- The methods of the control service. -/
inductive Method where
  | installSwitchRule
  | deleteSwitchRule
  | configureVoa
  | assocTx
  | assocRx
  | turnOn
  | turnOff
  | resetNode
  | setGain
  | resetAmplifier
  | resetLink
  | resetNetwork
  | getOpticalSignals
  | getMonitor
  | describeTopology
  deriving DecidableEq, Repr, Inhabited

namespace Method

/-- Every method. -/
def all : List Method :=
  [installSwitchRule, deleteSwitchRule, configureVoa, assocTx, assocRx, turnOn, turnOff,
   resetNode, setGain, resetAmplifier, resetLink, resetNetwork, getOpticalSignals, getMonitor,
   describeTopology]

/-- The name of a method. -/
def name : Method → String
  | installSwitchRule => "InstallSwitchRule"
  | deleteSwitchRule => "DeleteSwitchRule"
  | configureVoa => "ConfigureVOA"
  | assocTx => "AssocTx"
  | assocRx => "AssocRx"
  | turnOn => "TurnOn"
  | turnOff => "TurnOff"
  | resetNode => "ResetNode"
  | setGain => "SetGain"
  | resetAmplifier => "ResetAmplifier"
  | resetLink => "ResetLink"
  | resetNetwork => "ResetNetwork"
  | getOpticalSignals => "GetOpticalSignals"
  | getMonitor => "GetMonitor"
  | describeTopology => "DescribeTopology"

/-- The method of this name. -/
def ofName? (s : String) : Option Method := all.find? (·.name == s)

/-- Whether a method only reads the twin. -/
def isQuery : Method → Bool
  | getOpticalSignals | getMonitor | describeTopology => true
  | _ => false

/-- Whether a method takes no request. -/
def takesNothing : Method → Bool
  | resetNetwork | describeTopology => true
  | _ => false

end Method

/-- The name of the service. -/
def serviceName : String := "opticaltwin.control.v1.ControlService"

/-- The full name of a method of the service. -/
def Method.fullName (m : Method) : String := "/" ++ serviceName ++ "/" ++ m.name

/-- The instrumentation scope of the service's spans. -/
def serviceScope : String := "github.com/Mininet-Optical/mininet-optical-sub000/internal/control"

/-- The answer of a call: a status and, on success, the response if the method has one. -/
structure Reply where
  code : Code
  message : String
  response : Option Payload
  deriving Repr, Inhabited

namespace Reply

/-- A successful answer. -/
def answer (p : Option Payload) : Reply := ⟨.ok, "", p⟩

/-- The answer to a failure. -/
def refuse (e : Failure) : Reply := let st := Status.ofFailure e; ⟨st.code, st.message, none⟩

/-- The answer of a service without a twin. -/
def unavailable : Reply := ⟨.unavailable, "control service not initialised", none⟩

end Reply

/-- A call served: the twin afterwards (none for a service without one), what happened in
order, and the answer. -/
structure Served where
  twin : Option Twin
  events : List Event
  reply : Reply

/-- A span of the service around work on an entity; an empty entity type or entity is left
out. -/
def entitySpan (name entityType entity : String) (hasParent : Bool) : Trace.Span :=
  ⟨name, 1, (if entityType.isEmpty then [] else [("twin.entity_type", .str entityType)]) ++
    (if entity.isEmpty then [] else [("twin.entity", .str entity)]), [], .unset, "", serviceScope,
    hasParent⟩

/-- How a command method reads its request: the entity type and operation that name its
records and span, the request type, the command it runs and the field naming its entity. -/
structure CommandForm where
  entityType : String
  operation : String
  request : Schema.Ty
  command : Schema.Value → Command
  entityKey : String

/-- The text of a request field. -/
def textOf (v : Schema.Value) (k : String) : String := (v.get k).asStr

/-- The integer of a request field. -/
def intOf (v : Schema.Value) (k : String) : Int := (v.get k).asInt

/-- The form of a command method. -/
def Method.commandForm? : Method → Option CommandForm
  | .installSwitchRule => some ⟨"roadm", "install_switch_rule", .switchRuleRequest, fun v =>
      .installRule (textOf v "roadm") (textOf v "id") (intOf v "in_port") (intOf v "out_port")
        ((v.get "channels").asList.map (·.asInt)), "roadm"⟩
  | .deleteSwitchRule => some ⟨"roadm", "delete_switch_rule", .deleteRuleRequest, fun v =>
      .deleteRule (textOf v "roadm") (textOf v "id"), "roadm"⟩
  | .configureVoa => some ⟨"roadm", "configure_voa", .voaRequest, fun v =>
      .configureVoa (textOf v "roadm") (intOf v "channel") (intOf v "out_port")
        (v.get "power_dbm").asFloat, "roadm"⟩
  | .assocTx => some ⟨"terminal", "assoc_tx", .bindingRequest, fun v =>
      .assocTx (textOf v "terminal") (intOf v "transceiver") (intOf v "channel") (intOf v "port"),
      "terminal"⟩
  | .assocRx => some ⟨"terminal", "assoc_rx", .bindingRequest, fun v =>
      .assocRx (textOf v "terminal") (intOf v "transceiver") (intOf v "channel") (intOf v "port"),
      "terminal"⟩
  | .resetNode => some ⟨"node", "reset", .nameRequest, fun v => .resetNode (textOf v "name"), "name"⟩
  | .setGain => some ⟨"amplifier", "set_gain", .gainRequest, fun v =>
      .setGain (textOf v "amplifier") (v.get "gain_db").asFloat, "amplifier"⟩
  | .resetAmplifier => some ⟨"amplifier", "reset", .nameRequest, fun v =>
      .resetAmplifier (textOf v "name"), "name"⟩
  | .resetLink => some ⟨"link", "reset", .nameRequest, fun v => .resetLink (textOf v "name"), "name"⟩
  | _ => none

/-- A reading as a payload. -/
def Reading.payload (r : Reading) : Payload :=
  .record [("channel", .num (Float.ofInt r.channel)), ("frequency_hz", .num r.frequencyHz),
    ("power_dbm", .num r.powerDbm), ("ase_noise_dbm", .num r.aseDbm),
    ("nli_noise_dbm", .num r.nliDbm), ("osnr_db", .num r.osnrDb), ("gosnr_db", .num r.gosnrDb)]

/-- The readings answer. -/
def readingsPayload (rs : List Reading) : Payload := .record [("readings", .list (rs.map Reading.payload))]

/-- A reception report as a payload. -/
def Report.payload (r : Report) : Payload :=
  .record [("channel", .num (Float.ofInt r.channel)), ("port", .num (Float.ofInt r.port)),
    ("transceiver", .num (Float.ofInt r.transceiver)), ("ok", .bool r.ok), ("reason", .str r.reason),
    ("power_dbm", .num r.powerDbm), ("osnr_db", .num r.osnrDb), ("gosnr_db", .num r.gosnrDb),
    ("threshold_db", .num r.thresholdDb)]

/-- The answer of a pass: the latest reports of every terminal and the propagation error. -/
def passPayload (n : Network) (err : Option String) : Payload :=
  .record ([("reports", .record (n.allReports.map fun (t, rs) => (t, .list (rs.map Report.payload))))] ++
    (err.map fun m => ("propagation_error", Payload.str m)).toList)

/-- Whether a pass failure leaves the call successful: a routing loop or an exhausted switch
budget. -/
def passOnly (e : Failure) : Bool := e.is .routingLoop || e.is .propagationLimit

/-- The record of a call's logger. -/
def callRecord (scope : CallScope) (level : Log.Level) (msg : String) (as : List Log.Attr) : Event :=
  .logged ⟨level, msg, scope.attrs ++ as⟩

/-- Serves a command method. -/
def runCommand (t : Twin) (scope : CallScope) (f : CommandForm) (req : Option Payload) : Served :=
  let tag := [Log.Attr.str "entity_type" f.entityType, .str "operation" f.operation]
  match decodeRequest f.request req with
  | .error e =>
    ⟨some t, [callRecord scope .debug "request validation failed" (tag ++ [.str "reason" e.message])],
      .refuse e⟩
  | .ok v =>
    let entity := textOf v f.entityKey
    let span := entitySpan (f.entityType ++ "/" ++ f.operation) f.entityType entity scope.enclosed
    let (t, o) := t.executeIn ⟨scope.attrs, true⟩ (f.command v)
    match o.error with
    | some e => ⟨some t, o.events ++ [.traced (span.recordError e.message)], .refuse e⟩
    | none =>
      ⟨some t, o.events ++ [callRecord scope .debug "command applied" (tag ++ [.str "entity_id" entity]),
        .traced span], .answer none⟩

/-- Serves turning channels on or off. -/
def runPass (t : Twin) (scope : CallScope) (ty : Schema.Ty) (spanName : String)
    (command : Schema.Value → Command) (req : Option Payload) : Served :=
  match decodeRequest ty req with
  | .error e => ⟨some t, [], .refuse e⟩
  | .ok v =>
    let span := entitySpan spanName "terminal" (textOf v "terminal") scope.enclosed
    let (t, o) := t.executeIn ⟨scope.attrs, true⟩ (command v)
    match o.error with
    | some e =>
      if passOnly e then
        ⟨some t, o.events ++ [callRecord scope .warn "propagation pass reported errors" [.str "error" e.message],
          .traced span], .answer (some (passPayload t.net (some e.message)))⟩
      else ⟨some t, o.events ++ [.traced span], .refuse e⟩
    | none => ⟨some t, o.events ++ [.traced span], .answer (some (passPayload t.net none))⟩

/-- Answers a query from the twin. -/
def runQuery (t : Twin) (r : Except Failure Payload) : Served :=
  match r with
  | .ok p => ⟨some t, [], .answer (some p)⟩
  | .error e => ⟨some t, [], .refuse e⟩

/-- The description of the network as a payload; a description that cannot be written as JSON
fails. -/
def describePayload (n : Network) : Except Failure Payload := do
  pure (Payload.ofJson (← n.describe.toJson))

/-- Serves a call of a method with its request, inside a call scope. -/
def serve (tw : Option Twin) (scope : CallScope) (m : Method) (req : Option Payload) : Served :=
  match tw with
  | none => ⟨none, [], .unavailable⟩
  | some t =>
    match m.commandForm? with
    | some f => runCommand t scope f req
    | none =>
      match m with
      | .turnOn => runPass t scope .turnOnRequest "terminal/turn_on"
          (fun v => .turnOn (textOf v "terminal") (v.get "safe").asBool) req
      | .turnOff => runPass t scope .turnOffRequest "terminal/turn_off"
          (fun v => .turnOff (textOf v "terminal") ((v.get "channels").asList.map (·.asInt))) req
      | .resetNetwork =>
        let span := entitySpan "network/reset" "network" "" scope.enclosed
        let (t, o) := t.executeIn ⟨scope.attrs, true⟩ .resetNetwork
        ⟨some t, o.events ++ [callRecord scope .info "network reset" [], .traced span], .answer none⟩
      | .getOpticalSignals => runQuery t (do
          let v ← decodeRequest .signalsRequest req
          let mode ← Mode.parse (textOf v "mode")
          let rs ← t.net.monitor "port" (textOf v "node") (intOf v "port") mode
          pure (readingsPayload rs))
      | .getMonitor => runQuery t (do
          let v ← decodeRequest .monitorRequest req
          let mode ← Mode.parse (textOf v "mode")
          let rs ← t.net.monitor (Text.lower (textOf v "kind")) (textOf v "name") (intOf v "index") mode
          pure (readingsPayload rs))
      | .describeTopology => runQuery t (describePayload t.net)
      | _ => ⟨some t, [], .answer none⟩

end WdmNet.Control
