import WdmNet.Inspect.Figures
import WdmNet.Control.Client
/-!
Inspection documents.

Each part of a network, each reading and report, and each answer of the control service has a
JSON view that lists what it holds under fixed keys, in a fixed order, with levels and other
quantities written as `Inspect.level` and `Inspect.quantity` write them. A number of a control
payload is a level when its key ends in `_db` or `_dbm`.
-/

namespace WdmNet

open Inspect

/-- A report of a received channel. -/
def Report.view (r : Report) : Json :=
  .obj [("channel", .ofInt r.channel), ("port", .ofInt r.port), ("transceiver", .ofInt r.transceiver),
    ("ok", .bool r.ok), ("reason", .str r.reason), ("power_dbm", level r.powerDbm),
    ("osnr_db", level r.osnrDb), ("gosnr_db", level r.gosnrDb), ("threshold_db", level r.thresholdDb)]

/-- The reports of each terminal. -/
def reportsView (rs : List (String × List Report)) : Json :=
  .obj (rs.map fun (t, l) => (t, .arr (l.map Report.view)))

/-- A monitor reading of a channel. -/
def Reading.view (r : Reading) : Json :=
  .obj [("channel", .ofInt r.channel), ("frequency_hz", quantity r.frequencyHz),
    ("power_dbm", level r.powerDbm), ("ase_dbm", level r.aseDbm), ("nli_dbm", level r.nliDbm),
    ("osnr_db", level r.osnrDb), ("gosnr_db", level r.gosnrDb)]

/-- A signal. -/
def Signal.view (s : Signal) : Json :=
  .obj [("index", .ofInt s.index), ("frequency_hz", quantity s.frequency),
    ("symbol_rate", quantity s.symbolRate), ("active", .bool s.active), ("name", .str s.name)]

/-- The powers of a signal at a point. -/
def SignalState.view (s : SignalState) : Json :=
  .obj [("power", quantity s.power), ("ase", quantity s.ase), ("nli", quantity s.nli)]

/-- A visit of a signal to a location. -/
def Visit.view (v : Visit) : Json :=
  .obj [("location", .str v.location.render), ("kind", .str v.location.kind.name),
    ("id", .ofInt v.location.id), ("port", .ofInt v.location.port), ("pass", .ofInt v.pass),
    ("in", v.entry.view), ("out", v.exit.view)]

/-- A channel bound to a transceiver and a port. -/
def bindingView (ch trx port : Int) (active : Bool) : Json :=
  .obj [("channel", .ofInt ch), ("transceiver", .ofInt trx), ("port", .ofInt port), ("active", .bool active)]

/-- A transceiver. -/
def Transceiver.view (x : Transceiver) : Json :=
  .obj [("id", .ofInt x.id), ("name", .str x.name), ("operation_power_dbm", level x.powerDbm),
    ("modulation", .str x.modulation), ("symbol_rate", quantity x.symbolRate),
    ("effective_symbol_rate", quantity x.effectiveSymbolRate), ("threshold_db", level x.thresholdDb)]

/-- A line terminal. -/
def Terminal.view (t : Terminal) : Json :=
  .obj [("name", .str t.name), ("kind", .str "line-terminal"), ("handle", .ofInt t.handle),
    ("transceivers", .arr (t.transceivers.map Transceiver.view)),
    ("tx", .arr (t.tx.toList.map fun (ch, b) => bindingView ch b.transceiver b.port b.active)),
    ("rx", .arr (t.rx.toList.map fun (ch, b) => bindingView ch b.transceiver b.port false)),
    ("tx_channels", .arr (t.tx.keys.map .ofInt)), ("rx_channels", .arr (t.rx.keys.map .ofInt)),
    ("active", .arr (t.activeChannels.map .ofInt)), ("failed", .arr (t.failedChannels.map .ofInt))]

/-- A ROADM with its switch rules and VOA settings. -/
def Roadm.view (r : Roadm) : Json :=
  .obj [("name", .str r.name), ("kind", .str "roadm"), ("handle", .ofInt r.handle),
    ("rules", .arr (r.switchRules.map fun x => .obj [("id", .str x.id), ("in_port", .ofInt x.inPort),
      ("out_port", .ofInt x.outPort), ("channels", .arr (x.channels.map .ofInt))])),
    ("voa", .arr (r.voaSettings.map fun (p, ch, v) =>
      .obj [("channel", .ofInt ch), ("out_port", .ofInt p), ("power_dbm", level v)]))]

/-- An amplifier with its gains and settings. -/
def Amplifier.view (a : Amplifier) : Json :=
  .obj [("name", .str a.name), ("handle", .ofInt a.handle), ("role", .str a.config.role),
    ("target_gain_db", level a.targetGainDb), ("system_gain_db", level a.systemGainDb),
    ("noise_figure_db", level a.noiseFigureDb), ("agc_iterations", .ofInt a.lastIterations),
    ("wdg", .str a.config.wdg), ("agc", .str a.config.agc),
    ("max_agc_iterations", .ofInt a.config.maxAgcIterations),
    ("config_target_gain_db", level a.config.targetGainDb), ("location", .str a.location.render),
    ("channels", .arr (a.signals.channels.map .ofInt))]

/-- The channels the attenuation of a span is shown for. -/
def sampleChannels : List Int := [0, 1, 2, 45, 90, 91]

/-- A fiber span with its configuration and derived lengths. -/
def Span.view (s : Span) : Json :=
  let c := s.config
  .obj [("handle", .ofInt s.handle), ("length_km", quantity c.lengthKm),
    ("effective_length_m", quantity s.effLength), ("asymptotic_length_m", quantity s.asymLength),
    ("beta2", quantity s.beta2), ("location", .str s.location.render),
    ("attenuation_db_per_km", quantity c.attenuationDbPerKm),
    ("dispersion_ps_nm_km", quantity c.dispersionPsNmKm),
    ("nonlinear_coefficient", quantity c.nonlinearCoefficient), ("raman_gain", quantity c.ramanGain),
    ("effective_area_um2", quantity c.effectiveAreaUm2),
    ("raman_bandwidth_hz", quantity c.ramanBandwidthHz), ("disable_nli", .bool c.disableNli),
    ("attenuation_db_ch_0_1_2_45_90_91", .arr (sampleChannels.map fun ch => level (s.attenuationDb ch))),
    ("channels", .arr (s.signals.channels.map .ofInt))]

/-- A handle that may be missing, as `-1` when it is. -/
def handleView (h : Option Nat) : Json := .ofInt ((h.map (fun x => (x : Int))).getD (-1))

/-- A link of a network with its hops and spans. -/
def Link.view (n : Network) (l : Link) : Json :=
  .obj [("name", .str l.name), ("handle", .ofInt l.handle), ("src", .str l.srcName),
    ("dst", .str l.dstName), ("out_port", .ofInt l.outPort), ("in_port", .ofInt l.inPort),
    ("boost", handleView l.boost), ("srs", .str l.raman.name), ("length_km", quantity l.length),
    ("hops", .arr (l.hops.map fun h => .arr [.ofInt h.span, handleView h.amplifier])),
    ("spans", .arr (l.hops.filterMap fun h => (n.spans[h.span]?).map Span.view))]

/-- The names of everything a network holds. -/
def Network.inventory (n : Network) : Json :=
  .obj [("nodes", .arr (n.nodes.toList.map fun nd => .arr [.str nd.name, .str nd.kind, .ofInt nd.handle])),
    ("terminals", .arr (n.terminals.map (.str ·.name))), ("roadms", .arr (n.roadms.map (.str ·.name))),
    ("amplifiers", .arr (n.amps.toList.map (.str ·.name))), ("links", .arr (n.links.toList.map (.str ·.name))),
    ("span_out_of_range_nil", .bool true),
    ("span_lengths_km", .arr (n.spans.toList.map (quantity ·.config.lengthKm)))]

/-- A value of a span attribute. -/
def Trace.AttrValue.view : Trace.AttrValue → Json
  | .str s => .str s
  | .int i => .ofInt i
  | .bool b => .bool b
  | .float x => .ofFloat x

/-- Span attributes as an object. -/
def Trace.attrsView (as : List (String × Trace.AttrValue)) : Json :=
  .obj (as.map fun (k, v) => (k, v.view))

/-- A finished span. -/
def Trace.Span.view (sp : Trace.Span) : Json :=
  .obj [("name", .str sp.name), ("kind", .ofInt sp.kind), ("attributes", Trace.attrsView sp.attrs),
    ("events", .arr (sp.events.map fun e => .obj [("name", .str e.name), ("attributes", Trace.attrsView e.attrs)])),
    ("status", .str sp.status.name), ("status_description", .str sp.description), ("scope", .str sp.scope),
    ("has_parent", .bool sp.hasParent)]

namespace Control

mutual
/-- A payload under a key: its numbers are levels when the key names decibels. -/
def Payload.view (key : String) : Payload → Json
  | .null => .null
  | .bool b => .bool b
  | .num x => if key.endsWith "_db" || key.endsWith "_dbm" then level x else quantity x
  | .str t => .str t
  | .list xs => .arr (Payload.itemsView key xs)
  | .record fs => .obj (Payload.fieldsView fs)

/-- Items of a list under a key. -/
def Payload.itemsView (key : String) : List Payload → List Json
  | [] => []
  | p :: rest => Payload.view key p :: Payload.itemsView key rest

/-- Fields of a record, each under its own key. -/
def Payload.fieldsView : List (String × Payload) → List (String × Json)
  | [] => []
  | (k, p) :: rest => (k, Payload.view k p) :: Payload.fieldsView rest
end

/-- A reply: its code, the message of a failure, and the response. -/
def Reply.view (r : Reply) : Json :=
  .obj ([("code", .str r.code.name)] ++ (if r.code == .ok then [] else [("message", .str r.message)]) ++
    (r.response.map fun p => ("response", Payload.view "" p)).toList)

/-- What a client call returned. -/
def ClientAnswer.view : ClientAnswer → Json
  | .done => .null
  | .pass rs e => .obj [("reports", reportsView rs), ("propagation_error", .str e)]
  | .readings rs => .arr (rs.map Reading.view)
  | .description d => orFailure d.toJson

end Control

end WdmNet
