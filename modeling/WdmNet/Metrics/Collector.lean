import WdmNet.Metrics.Registry
import WdmNet.Network.Event
import WdmNet.Control.Method
/-!
The twin's instruments and what updates them.

Two collectors register the twin's instruments:

* the control collector counts the remote calls of the control service by service, method and
  status code, times them by service and method, and holds the size of the twin: nodes,
  directed links, amplifiers, switch rules and channels turned on;
* the propagation collector times propagation passes by the command that started them, counts
  passes that failed, channels a node did not forward (by node and reason), reception verdicts
  (by terminal and outcome), and follows gain control: the iterations of each run and the
  system gain each amplifier was left at.

Creating a collector adopts its instruments in this order and stops at the first refusal;
those adopted before stay registered. The updates act on the instruments by name, so an
instrument adopted from an earlier registration is updated in place.
-/

namespace WdmNet.Metrics

/-- The collectors of the twin's instruments. -/
inductive Collector where
  | control
  | propagation
  deriving DecidableEq, Repr, Inhabited

/-- The collector of this name. -/
def Collector.ofName? : String → Option Collector
  | "control" => some .control
  | "propagation" => some .propagation
  | _ => none

/-- Counts of handled remote calls. -/
def requestsName : String := "twin_control_requests_total"
/-- Durations of handled remote calls. -/
def requestSecondsName : String := "twin_control_request_duration_seconds"
/-- Nodes of the twin. -/
def nodesName : String := "twin_topology_nodes"
/-- Directed links of the twin. -/
def linksName : String := "twin_topology_links"
/-- Amplifiers of the twin. -/
def amplifiersName : String := "twin_topology_amplifiers"
/-- Switch rules of the twin. -/
def rulesName : String := "twin_switch_rules"
/-- Channels turned on. -/
def activeName : String := "twin_active_channels"
/-- Durations of propagation passes. -/
def passSecondsName : String := "twin_propagation_pass_duration_seconds"
/-- Failed propagation passes. -/
def passErrorsName : String := "twin_propagation_pass_errors_total"
/-- Channels not forwarded. -/
def droppedName : String := "twin_channels_dropped_total"
/-- Reception verdicts. -/
def receivedName : String := "twin_channels_received_total"
/-- Iterations of gain control runs. -/
def iterationsName : String := "twin_agc_iterations"
/-- System gains of amplifiers. -/
def systemGainName : String := "twin_amplifier_system_gain_db"

/-- The instruments of a collector, in the order they are adopted. -/
def Collector.instruments : Collector → List Entry
  | .control => [
    .create ⟨requestsName, "Total number of handled control RPCs, labeled by service, method and gRPC status code.",
      ["service", "method", "code"]⟩ .counterVec [],
    .create ⟨requestSecondsName, "Control RPC latency in seconds.", ["service", "method"]⟩ .histogramVec
      [0.005, 0.01, 0.025, 0.05, 0.1, 0.25, 0.5, 1, 2, 5, 10],
    .create ⟨nodesName, "Current number of line terminals and ROADMs in the twin.", []⟩ .gauge [],
    .create ⟨linksName, "Current number of directed links in the twin.", []⟩ .gauge [],
    .create ⟨amplifiersName, "Current number of amplifiers in the twin.", []⟩ .gauge [],
    .create ⟨rulesName, "Switch rules installed across all ROADMs.", []⟩ .gauge [],
    .create ⟨activeName, "Channels currently turned on across all line terminals.", []⟩ .gauge []]
  | .propagation => [
    .create ⟨passSecondsName, "Duration of propagation passes, labeled by the command that started them.",
      ["kind"]⟩ .histogramVec [0.0001, 0.0005, 0.001, 0.005, 0.01, 0.05, 0.1, 0.5, 1],
    .create ⟨passErrorsName, "Propagation passes that ended with a routing loop or budget error.", []⟩
      .counter [],
    .create ⟨droppedName, "Channels not forwarded by a node, labeled by node and reason.",
      ["node", "reason"]⟩ .counterVec [],
    .create ⟨receivedName, "Reception verdicts of line terminals, labeled by terminal and outcome.",
      ["terminal", "outcome"]⟩ .counterVec [],
    .create ⟨iterationsName, "Gain control iterations per amplifier adjustment.", []⟩ .histogram
      [1, 2, 3, 5, 10, 20],
    .create ⟨systemGainName, "System gain of each amplifier after its last gain control run.",
      ["amplifier"]⟩ .gaugeVec []]

namespace Registry

/-- Creates a collector on the registry: the registry after its adoptions, and the message of
the refusal that stopped them. -/
def addCollector (r : Registry) (c : Collector) : Registry × Option String :=
  r.adoptAll c.instruments

/-- Increments a counter. -/
def inc (r : Registry) (name : String) (values : List String) : Registry :=
  r.update name values fun _ => Reading.add 1

/-- Sets a gauge. -/
def setGauge (r : Registry) (name : String) (values : List String) (v : Float) : Registry :=
  r.update name values fun _ => Reading.set v

/-- Gives an observation to a histogram. -/
def observe (r : Registry) (name : String) (values : List String) (x : Float) : Registry :=
  r.update name values fun bounds => Reading.observe bounds x

/-- A remote call handled with this full method name and status code, taking `seconds`. -/
def requestHandled (r : Registry) (fullMethod code : String) (seconds : Float) : Registry :=
  let (service, method) := Control.splitMethod fullMethod
  (r.inc requestsName [service, method, code]).observe requestSecondsName [service, method] seconds

/-- The size of the twin. -/
def setTopologyCounts (r : Registry) (nodes links amplifiers rules active : Int) : Registry :=
  let r := r.setGauge nodesName [] (Float.ofInt nodes)
  let r := r.setGauge linksName [] (Float.ofInt links)
  let r := r.setGauge amplifiersName [] (Float.ofInt amplifiers)
  let r := r.setGauge rulesName [] (Float.ofInt rules)
  r.setGauge activeName [] (Float.ofInt active)

/-- A propagation pass of this kind took `seconds` and failed or not. -/
def passCompleted (r : Registry) (kind : String) (seconds : Float) (failed : Bool) : Registry :=
  let r := r.observe passSecondsName [kind] seconds
  if failed then r.inc passErrorsName [] else r

/-- A node did not forward a channel. -/
def channelDropped (r : Registry) (node reason : String) : Registry := r.inc droppedName [node, reason]

/-- A terminal's verdict on a channel. -/
def channelReceived (r : Registry) (terminal : String) (ok : Bool) : Registry :=
  r.inc receivedName [terminal, if ok then "ok" else "failed"]

/-- A gain control run of an amplifier: its iterations and the system gain it left. -/
def amplifierAdjusted (r : Registry) (amplifier : String) (iterations : Int) (gainDb : Float) :
    Registry :=
  (r.observe iterationsName [] (Float.ofInt iterations)).setGauge systemGainName [amplifier] gainDb

/-- The size of the twin from its counts: nodes, links, amplifiers, rules and active channels. -/
def setCounts (r : Registry) : List Nat → Registry
  | [a, b, c, d, e] => r.setTopologyCounts a b c d e
  | _ => r

/-- A fresh registry with the control and the propagation collectors. -/
def withCollectors : Registry :=
  ((({} : Registry).addCollector .control).1.addCollector .propagation).1

/-- What an event of a pass updates; passes take no measurable time. -/
def observeEvent (r : Registry) : Event → Registry
  | .passCompleted kind err => r.passCompleted kind 0 err.isSome
  | .dropped node reason => r.channelDropped node reason.name
  | .received terminal ok => r.channelReceived terminal ok
  | .adjusted amplifier iterations gainDb => r.amplifierAdjusted amplifier iterations gainDb
  | _ => r

end Registry

end WdmNet.Metrics
