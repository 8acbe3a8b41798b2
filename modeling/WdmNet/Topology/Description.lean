import WdmNet.Schema.Basic
import WdmNet.Network.Basic
/-!
Network descriptions.

A description lists amplifiers, line terminals, ROADMs and links, and optionally a control
section: switch rules, VOA targets, transmit and receive bindings, and the terminals to turn
on. Amplifiers come first because terminals, ROADMs and links refer to them by name.

Descriptions are read from and written to documents through the record table of
`Schema.Ty`: `Description.ofValue` and `Description.toValue` convert between the two.
A link's span list and a rule's channel list remember whether they were given at all, since
documents write an absent list differently from an empty one.

`Description.validate` checks names and cross references and reports every problem it finds.
-/

namespace WdmNet

open Schema

/-- A named amplifier configuration. -/
structure AmplifierDesc where
  name : String
  config : AmplifierConfig
  deriving Repr, Inhabited

/-- A line terminal and its transceivers. -/
structure TerminalDesc where
  name : String
  transceivers : List Transceiver
  deriving Repr, Inhabited

/-- A named ROADM configuration. -/
structure RoadmDesc where
  name : String
  config : RoadmConfig
  deriving Repr, Inhabited

/-- A span and the name of the amplifier after it (empty for none). -/
structure SpanDesc where
  span : SpanConfig
  amplifier : String
  deriving Repr, Inhabited

/-- A link as described. -/
structure LinkDesc where
  name : String
  src : String
  dst : String
  outPort : Int
  inPort : Int
  boost : String
  /-- The spans; `none` when the list was not given. -/
  spans : Option (List SpanDesc)
  srs : String
  deriving Repr, Inhabited

/-- A switch rule on a named ROADM. -/
structure RuleDesc where
  roadm : String
  id : String
  inPort : Int
  outPort : Int
  /-- The channels; `none` when the list was not given. -/
  channels : Option (List Int)
  deriving Repr, Inhabited

/-- A VOA target on a named ROADM. -/
structure VoaDesc where
  roadm : String
  channel : Int
  outPort : Int
  powerDbm : Float
  deriving Repr, Inhabited

/-- A binding of a transceiver of a named terminal to a channel and a port. -/
structure BindingDesc where
  terminal : String
  transceiver : Int
  channel : Int
  port : Int
  deriving Repr, Inhabited

/-- The control section. -/
structure Control where
  switchRules : List RuleDesc
  voa : List VoaDesc
  tx : List BindingDesc
  rx : List BindingDesc
  turnOn : List String
  safe : Bool
  deriving Repr, Inhabited

/-- A network description. -/
structure Description where
  name : String
  amplifiers : List AmplifierDesc
  terminals : List TerminalDesc
  roadms : List RoadmDesc
  links : List LinkDesc
  control : Option Control
  deriving Repr, Inhabited

/-- The empty description. -/
def Description.empty : Description := ⟨"", [], [], [], [], none⟩

/-! ### From values -/

namespace Schema.Value

/-- An optional list. -/
def asOptList (v : Value) : Option (List Value) :=
  match v with
  | .list xs _ => some xs
  | _ => none

/-- A map with integer keys and text values, sorted by key. -/
def asTextMap (v : Value) : List (Int × String) :=
  (v.asMap.map fun (k, x) => (k, x.asStr)).mergeSort fun a b => a.1 ≤ b.1

/-- A map with integer keys and number values, sorted by key. -/
def asFloatMap (v : Value) : List (Int × Float) :=
  (v.asMap.map fun (k, x) => (k, x.asFloat)).mergeSort fun a b => a.1 ≤ b.1

end Schema.Value

/-- An amplifier configuration from a record. -/
def AmplifierConfig.ofValue (v : Value) : AmplifierConfig :=
  ⟨(v.get "target_gain_db").asFloat, (v.get "noise_figure_db").asOptFloat, (v.get "wdg").asStr,
   (v.get "role").asStr, (v.get "agc").asStr, (v.get "max_agc_iterations").asInt⟩

/-- A transceiver from a record. -/
def Transceiver.ofValue (v : Value) : Transceiver :=
  ⟨(v.get "id").asInt, (v.get "name").asStr, (v.get "operation_power_dbm").asFloat,
   (v.get "modulation").asStr, (v.get "symbol_rate").asFloat⟩

/-- A ROADM configuration from a record. -/
def RoadmConfig.ofValue (v : Value) : RoadmConfig :=
  ⟨(v.get "insertion_loss_db").asFloat, (v.get "leveling_power_dbm").asOptFloat,
   (v.get "preamps").asTextMap, (v.get "boosts").asTextMap⟩

/-- A span configuration from a record. -/
def SpanConfig.ofValue (v : Value) : SpanConfig :=
  ⟨(v.get "length_km").asFloat, (v.get "attenuation_db_per_km").asFloat,
   (v.get "channel_attenuation").asFloatMap, (v.get "dispersion_ps_nm_km").asFloat,
   (v.get "nonlinear_coefficient").asFloat, (v.get "raman_gain").asFloat,
   (v.get "effective_area_um2").asFloat, (v.get "raman_bandwidth_hz").asFloat,
   (v.get "disable_nli").asBool⟩

/-- A link from a record. -/
def LinkDesc.ofValue (v : Value) : LinkDesc :=
  ⟨(v.get "name").asStr, (v.get "src").asStr, (v.get "dst").asStr, (v.get "out_port").asInt,
   (v.get "in_port").asInt, (v.get "boost").asStr,
   (v.get "spans").asOptList.map (·.map fun s =>
     ⟨SpanConfig.ofValue (s.get "span"), (s.get "amplifier").asStr⟩),
   (v.get "srs").asStr⟩

/-- A binding from a record. -/
def BindingDesc.ofValue (v : Value) : BindingDesc :=
  ⟨(v.get "terminal").asStr, (v.get "transceiver").asInt, (v.get "channel").asInt,
   (v.get "port").asInt⟩

/-- A control section from a record. -/
def Control.ofValue (v : Value) : Control :=
  ⟨(v.get "switch_rules").asList.map (fun r =>
     ⟨(r.get "roadm").asStr, (r.get "id").asStr, (r.get "in_port").asInt,
      (r.get "out_port").asInt, (r.get "channels").asOptList.map (·.map Value.asInt)⟩),
   (v.get "voa").asList.map (fun r =>
     ⟨(r.get "roadm").asStr, (r.get "channel").asInt, (r.get "out_port").asInt,
      (r.get "power_dbm").asFloat⟩),
   (v.get "tx").asList.map BindingDesc.ofValue,
   (v.get "rx").asList.map BindingDesc.ofValue,
   (v.get "turn_on").asList.map Value.asStr,
   (v.get "safe").asBool⟩

/-- A description from a record. -/
def Description.ofValue (v : Value) : Description :=
  ⟨(v.get "name").asStr,
   (v.get "amplifiers").asList.map (fun a => ⟨(a.get "name").asStr, AmplifierConfig.ofValue a⟩),
   (v.get "terminals").asList.map (fun t =>
     ⟨(t.get "name").asStr, (t.get "transceivers").asList.map Transceiver.ofValue⟩),
   (v.get "roadms").asList.map (fun r => ⟨(r.get "name").asStr, RoadmConfig.ofValue r⟩),
   (v.get "links").asList.map LinkDesc.ofValue,
   match v.get "control" with
   | .nil => none
   | c => some (Control.ofValue c)⟩

/-! ### To values -/

/-- An optional number. -/
def optFloatValue : Option Float → Value
  | some x => .float x
  | none => .nil

/-- A map with text values. -/
def textMapValue (m : List (Int × String)) : Value :=
  if m.isEmpty then .nil else .map (m.map fun (k, s) => (k, .str s))

/-- The fields of an amplifier configuration. -/
def AmplifierConfig.fieldValues (c : AmplifierConfig) : List (String × Value) :=
  [("target_gain_db", .float c.targetGainDb), ("noise_figure_db", optFloatValue c.noiseFigureDb),
   ("wdg", .str c.wdg), ("role", .str c.role), ("agc", .str c.agc),
   ("max_agc_iterations", .int c.maxAgcIterations)]

/-- A transceiver as a record. -/
def Transceiver.toValue (t : Transceiver) : Value :=
  .record [("id", .int t.id), ("name", .str t.name), ("operation_power_dbm", .float t.powerDbm),
    ("modulation", .str t.modulation), ("symbol_rate", .float t.symbolRate)]

/-- The fields of a ROADM configuration. -/
def RoadmConfig.fieldValues (c : RoadmConfig) : List (String × Value) :=
  [("insertion_loss_db", .float c.insertionLossDb),
   ("leveling_power_dbm", optFloatValue c.levelingPowerDbm),
   ("preamps", textMapValue c.preamps), ("boosts", textMapValue c.boosts)]

/-- A span configuration as a record. -/
def SpanConfig.toValue (c : SpanConfig) : Value :=
  .record [("length_km", .float c.lengthKm), ("attenuation_db_per_km", .float c.attenuationDbPerKm),
    ("channel_attenuation",
      if c.channelAttenuation.isEmpty then .nil
      else .map (c.channelAttenuation.map fun (k, x) => (k, .float x))),
    ("dispersion_ps_nm_km", .float c.dispersionPsNmKm),
    ("nonlinear_coefficient", .float c.nonlinearCoefficient), ("raman_gain", .float c.ramanGain),
    ("effective_area_um2", .float c.effectiveAreaUm2),
    ("raman_bandwidth_hz", .float c.ramanBandwidthHz), ("disable_nli", .bool c.disableNli)]

/-- A link as a record. -/
def LinkDesc.toValue (l : LinkDesc) : Value :=
  .record [("name", .str l.name), ("src", .str l.src), ("dst", .str l.dst),
    ("out_port", .int l.outPort), ("in_port", .int l.inPort), ("boost", .str l.boost),
    ("spans", match l.spans with
      | some ss => .items (ss.map fun s => .record [("span", s.span.toValue), ("amplifier", .str s.amplifier)])
      | none => .nil),
    ("srs", .str l.srs)]

/-- A binding as a record. -/
def BindingDesc.toValue (b : BindingDesc) : Value :=
  .record [("terminal", .str b.terminal), ("transceiver", .int b.transceiver),
    ("channel", .int b.channel), ("port", .int b.port)]

/-- A control section as a record. -/
def Control.toValue (c : Control) : Value :=
  .record [
    ("switch_rules", .items (c.switchRules.map fun r =>
      .record [("roadm", .str r.roadm), ("id", .str r.id), ("in_port", .int r.inPort),
        ("out_port", .int r.outPort),
        ("channels", match r.channels with
          | some chs => .items (chs.map .int)
          | none => .nil)])),
    ("voa", .items (c.voa.map fun v =>
      .record [("roadm", .str v.roadm), ("channel", .int v.channel), ("out_port", .int v.outPort),
        ("power_dbm", .float v.powerDbm)])),
    ("tx", .items (c.tx.map BindingDesc.toValue)), ("rx", .items (c.rx.map BindingDesc.toValue)),
    ("turn_on", .items (c.turnOn.map .str)), ("safe", .bool c.safe)]

/-- A description as a record. -/
def Description.toValue (d : Description) : Value :=
  .record [("name", .str d.name),
    ("amplifiers", .items (d.amplifiers.map fun a => .record (("name", .str a.name) :: a.config.fieldValues))),
    ("terminals", .items (d.terminals.map fun t =>
      .record [("name", .str t.name), ("transceivers", .items (t.transceivers.map Transceiver.toValue))])),
    ("roadms", .items (d.roadms.map fun r => .record (("name", .str r.name) :: r.config.fieldValues))),
    ("links", .items (d.links.map LinkDesc.toValue)),
    ("control", match d.control with
      | some c => c.toValue
      | none => .nil)]

/-! ### Validation -/

/-- `duplicate kind "name"` once for each name given more than once. -/
def duplicates (kind : String) (names : List String) : List String :=
  let sorted := names.mergeSort (fun a b => decide (a ≤ b))
  let rec walk : List String → Option String → List String
    | [], _ => []
    | x :: rest, prev =>
      match rest with
      | y :: _ =>
        if x == y && prev != some x then ("duplicate " ++ kind ++ " " ++ q x) :: walk rest (some x)
        else walk rest (some x)
      | [] => []
  walk sorted none

/-- The names that are not blank, in order. -/
def namesGiven (names : List String) : List String :=
  names.filter fun x => !(Text.trimSpace x).isEmpty

/-- `what i has no name` for the blank name at each position `i`. -/
def unnamed (what : String) (names : List String) : List String :=
  names.zipIdx.filterMap fun (x, i) =>
    if (Text.trimSpace x).isEmpty then some (what ++ " " ++ toString i ++ " has no name") else none

/-- The problems of the ROADM at position `i`: a blank name, or else each amplifier named on a
port that is not among the declared amplifiers `amps`, preamps first. -/
def RoadmDesc.problems (amps : List String) (r : RoadmDesc) (i : Nat) : List String :=
  if (Text.trimSpace r.name).isEmpty then ["roadm " ++ toString i ++ " has no name"]
  else
    (r.config.preamps.filterMap fun (_, name) =>
      if amps.contains name then none
      else some ("roadm " ++ q r.name ++ " preamp " ++ q name ++ " is not declared")) ++
    (r.config.boosts.filterMap fun (_, name) =>
      if amps.contains name then none
      else some ("roadm " ++ q r.name ++ " boost " ++ q name ++ " is not declared"))

/-- The problems of the link at position `i`: an end that is not among the declared `nodes`,
then a boost and span amplifiers that are not among the declared amplifiers `amps`. -/
def LinkDesc.problems (nodes amps : List String) (l : LinkDesc) (i : Nat) : List String :=
  (if nodes.contains l.src && nodes.contains l.dst then []
   else ["link " ++ toString i ++ " (" ++ l.src ++ "->" ++ l.dst ++ ") references an unknown node"]) ++
  (if !l.boost.isEmpty && !amps.contains l.boost then
     ["link " ++ toString i ++ " boost " ++ q l.boost ++ " is not declared"]
   else []) ++
  ((l.spans.getD []).zipIdx.filterMap fun (s, j) =>
    if !s.amplifier.isEmpty && !amps.contains s.amplifier then
      some ("link " ++ toString i ++ " span " ++ toString j ++ " amplifier " ++ q s.amplifier ++
        " is not declared")
    else none)

/-- The references of a control section to ROADMs and terminals that are not declared: rules,
VOA targets, bindings, then the terminals to turn on. -/
def Control.problems (roadms terminals : List String) (c : Control) : List String :=
  (c.switchRules.filterMap fun r =>
    if roadms.contains r.roadm then none
    else some ("switch rule " ++ q r.id ++ " references unknown roadm " ++ q r.roadm)) ++
  (c.voa.filterMap fun v =>
    if roadms.contains v.roadm then none
    else some ("voa setting references unknown roadm " ++ q v.roadm)) ++
  ((c.tx ++ c.rx).filterMap fun b =>
    if terminals.contains b.terminal then none
    else some ("binding references unknown terminal " ++ q b.terminal)) ++
  (c.turnOn.filterMap fun name =>
    if terminals.contains name then none
    else some ("turn_on references unknown terminal " ++ q name))

/-- Every problem with names and references, in a fixed order: amplifiers, terminals,
ROADMs, duplicate nodes, links, then the control section. Only the named amplifiers, terminals
and ROADMs count as declared. -/
def Description.problems (d : Description) : List String :=
  let amps := namesGiven (d.amplifiers.map (·.name))
  let terminals := namesGiven (d.terminals.map (·.name))
  let roadms := namesGiven (d.roadms.map (·.name))
  unnamed "amplifier" (d.amplifiers.map (·.name)) ++ duplicates "amplifier" amps ++
    unnamed "terminal" (d.terminals.map (·.name)) ++
    (d.roadms.zipIdx.flatMap fun (r, i) => r.problems amps i) ++
    duplicates "node" (terminals ++ roadms) ++
    (d.links.zipIdx.flatMap fun (l, i) => l.problems (terminals ++ roadms) amps i) ++
    ((d.control.map (·.problems roadms terminals)).getD [])

/-- Checks names and cross references; physical parameters are checked when the network is
built. -/
def Description.validate (d : Description) : Except Failure Unit :=
  match d.problems with
  | [] => .ok ()
  | ps => .error ⟨[.invalidDescription], Kind.invalidDescription.text ++ ": " ++ "\n".intercalate ps⟩

end WdmNet
