import WdmNet.Text.Quoted
/-!
Failures of operations.

A failure carries a message and the kinds of fault it stands for. Most failures have one
kind, whose fixed wording opens the message (`switch rule not found: "q" on "r1"`); context
added on the way out is written in front (`terminal "t1": …`) and keeps the kinds; failures
gathered together join their messages with line breaks and keep all their kinds. A failure
without a kind is a plain message.
-/

namespace WdmNet

/-- The kinds of fault an operation can report. -/
inductive Kind where
  | nodeExists
  | nodeNotFound
  | amplifierExists
  | amplifierNotFound
  | amplifierInUse
  | linkExists
  | linkNotFound
  | portInUse
  | portNotConnected
  | invalidPort
  | invalidChannel
  | switchRuleExists
  | switchRuleConflict
  | switchRuleNotFound
  | transceiverNotFound
  | transceiverBusy
  | channelBound
  | noTransmitters
  | routingLoop
  | propagationLimit
  | invalidConfig
  | invalidDescription
  | unknownMonitor
  | invalidRequest
  deriving DecidableEq, Repr, Inhabited

/-- The fixed wording of each kind. -/
def Kind.text : Kind → String
  | .nodeExists => "node already exists"
  | .nodeNotFound => "node not found"
  | .amplifierExists => "amplifier already exists"
  | .amplifierNotFound => "amplifier not found"
  | .amplifierInUse => "amplifier already in use"
  | .linkExists => "link already exists"
  | .linkNotFound => "link not found"
  | .portInUse => "port already connected"
  | .portNotConnected => "port not connected"
  | .invalidPort => "invalid port"
  | .invalidChannel => "invalid channel"
  | .switchRuleExists => "switch rule already exists"
  | .switchRuleConflict => "switch rule conflicts with an installed rule"
  | .switchRuleNotFound => "switch rule not found"
  | .transceiverNotFound => "transceiver not found"
  | .transceiverBusy => "transceiver already bound"
  | .channelBound => "channel already bound"
  | .noTransmitters => "no transmitters associated"
  | .routingLoop => "routing loop detected"
  | .propagationLimit => "propagation limit exceeded"
  | .invalidConfig => "invalid configuration"
  | .invalidDescription => "invalid topology description"
  | .unknownMonitor => "unknown monitor kind"
  | .invalidRequest => "invalid request"

/-- The name of a kind. -/
def Kind.name : Kind → String
  | .nodeExists => "NodeExists"
  | .nodeNotFound => "NodeNotFound"
  | .amplifierExists => "AmplifierExists"
  | .amplifierNotFound => "AmplifierNotFound"
  | .amplifierInUse => "AmplifierInUse"
  | .linkExists => "LinkExists"
  | .linkNotFound => "LinkNotFound"
  | .portInUse => "PortInUse"
  | .portNotConnected => "PortNotConnected"
  | .invalidPort => "InvalidPort"
  | .invalidChannel => "InvalidChannel"
  | .switchRuleExists => "SwitchRuleExists"
  | .switchRuleConflict => "SwitchRuleConflict"
  | .switchRuleNotFound => "SwitchRuleNotFound"
  | .transceiverNotFound => "TransceiverNotFound"
  | .transceiverBusy => "TransceiverBusy"
  | .channelBound => "ChannelBound"
  | .noTransmitters => "NoTransmitters"
  | .routingLoop => "RoutingLoop"
  | .propagationLimit => "PropagationLimit"
  | .invalidConfig => "InvalidConfig"
  | .invalidDescription => "InvalidDescription"
  | .unknownMonitor => "UnknownMonitor"
  | .invalidRequest => "InvalidRequest"

/-- Every kind, in the order in which a failure of several kinds is classified. -/
def Kind.all : List Kind :=
  [.nodeExists, .nodeNotFound, .amplifierExists, .amplifierNotFound, .amplifierInUse,
   .linkExists, .linkNotFound, .portInUse, .portNotConnected, .invalidPort, .invalidChannel,
   .switchRuleExists, .switchRuleConflict, .switchRuleNotFound, .transceiverNotFound,
   .transceiverBusy, .channelBound, .noTransmitters, .routingLoop, .propagationLimit,
   .invalidConfig, .invalidDescription, .unknownMonitor, .invalidRequest]

/-- A failed operation: its message and the kinds of fault it stands for. -/
structure Failure where
  kinds : List Kind
  message : String
  deriving Repr, Inhabited

namespace Failure

/-- A failure of one kind, its wording followed by the detail. -/
def of (k : Kind) (detail : String) : Failure := ⟨[k], k.text ++ ": " ++ detail⟩

/-- A failure of no kind. -/
def plain (message : String) : Failure := ⟨[], message⟩

/-- Context written in front of a failure's message; the kinds stay. -/
def wrap (context : String) (e : Failure) : Failure := ⟨e.kinds, context ++ ": " ++ e.message⟩

/-- A kind's wording in front of another failure's message; both kinds count. -/
def under (k : Kind) (e : Failure) : Failure := ⟨k :: e.kinds, k.text ++ ": " ++ e.message⟩

/-- Several failures as one: the messages on separate lines, all kinds kept. -/
def join (es : List Failure) : Failure :=
  ⟨es.flatMap (·.kinds), "\n".intercalate (es.map (·.message))⟩

/-- Whether the failure stands for the kind. -/
def is (e : Failure) (k : Kind) : Bool := e.kinds.contains k

/-- The kind that classifies the failure: the first of `Kind.all` that it stands for. -/
def kind? (e : Failure) : Option Kind := Kind.all.find? e.is

/-- The name of the classifying kind, `Error` for a failure of no kind. -/
def kindName (e : Failure) : String := (e.kind?.map Kind.name).getD "Error"

end Failure

/-- A name between quotes, as messages show it. -/
def q (s : String) : String := Text.quote s

end WdmNet
