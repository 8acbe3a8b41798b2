import WdmNet.Control.Server
/-!
The typed client of the control service.

Each call of the client writes its request as a record (a field left empty is left out where the
request type says so; numbers become doubles, and one that is not finite cannot be written, so
the call fails before it is sent) and reads the response into its result: nothing for a command,
the reports of every terminal and the propagation error for turning channels on or off, the
readings for a query of signals or monitors, and the description, read back and checked, for the
topology.
-/

namespace WdmNet.Control

/-- A call of the typed client. -/
inductive ClientCall where
  | installSwitchRule (roadm id : String) (inPort outPort : Int) (channels : Option (List Int))
  | deleteSwitchRule (roadm id : String)
  | configureVoa (roadm : String) (channel outPort : Int) (powerDbm : Float)
  | assocTx (terminal : String) (transceiver channel port : Int)
  | assocRx (terminal : String) (transceiver channel port : Int)
  | turnOn (terminal : String) (safe : Bool)
  | turnOff (terminal : String) (channels : List Int)
  | resetNode (name : String)
  | setGain (amplifier : String) (gainDb : Float)
  | resetAmplifier (amplifier : String)
  | resetLink (link : String)
  | resetNetwork
  | opticalSignals (node : String) (port : Int) (mode : Mode)
  | monitor (kind name : String) (index : Int) (mode : Mode)
  | describeTopology
  deriving Repr, Inhabited

/-- What a client call returns. -/
inductive ClientAnswer where
  | done
  | pass (reports : List (String × List Report)) (propagationError : String)
  | readings (rs : List Reading)
  | description (d : Description)

/-- An integer as a payload number. -/
def intNum (i : Int) : Payload := .num (Float.ofInt i)

/-- A list of integers, or nothing, as a payload. -/
def intsPayload : Option (List Int) → Payload
  | some xs => .list (xs.map intNum)
  | none => .null

namespace ClientCall

/-- The method a call invokes. -/
def method : ClientCall → Method
  | installSwitchRule .. => .installSwitchRule
  | deleteSwitchRule .. => .deleteSwitchRule
  | configureVoa .. => .configureVoa
  | assocTx .. => .assocTx
  | assocRx .. => .assocRx
  | turnOn .. => .turnOn
  | turnOff .. => .turnOff
  | resetNode .. => .resetNode
  | setGain .. => .setGain
  | resetAmplifier .. => .resetAmplifier
  | resetLink .. => .resetLink
  | resetNetwork => .resetNetwork
  | opticalSignals .. => .getOpticalSignals
  | monitor .. => .getMonitor
  | describeTopology => .describeTopology

/-- The fields of the request record; none for a call that sends an empty message. -/
def fields : ClientCall → Option (List (String × Payload))
  | installSwitchRule r i ip op chs =>
    some [("roadm", .str r), ("id", .str i), ("in_port", intNum ip), ("out_port", intNum op),
      ("channels", intsPayload chs)]
  | deleteSwitchRule r i => some ([("roadm", .str r)] ++ (if i.isEmpty then [] else [("id", .str i)]))
  | configureVoa r ch op p =>
    some [("roadm", .str r), ("channel", intNum ch), ("out_port", intNum op), ("power_dbm", .num p)]
  | assocTx t trx ch p | assocRx t trx ch p =>
    some [("terminal", .str t), ("transceiver", intNum trx), ("channel", intNum ch), ("port", intNum p)]
  | turnOn t safe => some ([("terminal", .str t)] ++ (if safe then [("safe", .bool true)] else []))
  | turnOff t chs =>
    some ([("terminal", .str t)] ++ (if chs.isEmpty then [] else [("channels", intsPayload (some chs))]))
  | resetNode n => some [("name", .str n)]
  | setGain a g => some [("amplifier", .str a), ("gain_db", .num g)]
  | resetAmplifier a => some [("name", .str a)]
  | resetLink l => some [("name", .str l)]
  | resetNetwork => none
  | opticalSignals n p m => some [("node", .str n), ("port", intNum p), ("mode", .str m.name)]
  | monitor k n i m =>
    some ([("kind", .str k), ("name", .str n)] ++ (if i == 0 then [] else [("index", intNum i)]) ++
      [("mode", .str m.name)])
  | describeTopology => none

/-- The message a call sends, or why it cannot be written. -/
def message (c : ClientCall) : Except String Message :=
  match c.fields with
  | none => .ok .empty
  | some fs =>
    match (Payload.record fs).toJson with
    | .error m => .error m
    | .ok _ => .ok (.record (.record fs))

end ClientCall

/-- The field of a record. -/
def Payload.field? (p : Payload) (key : String) : Option Payload :=
  match p with
  | .record fs => (fs.find? (·.1 == key)).map (·.2)
  | _ => none

/-- The number of a field; zero when it is missing or not a number. -/
def Payload.number (p : Payload) (key : String) : Float :=
  match p.field? key with
  | some (.num x) => x
  | _ => 0

/-- The integer part of a field's number. -/
def Payload.integer (p : Payload) (key : String) : Int :=
  let x := p.number key
  if x.isNaN then 0 else if x < 0 then -((-x).floor.toUInt64.toNat : Int) else (x.floor.toUInt64.toNat : Int)

/-- The truth value of a field; false when it is missing or not one. -/
def Payload.flag (p : Payload) (key : String) : Bool :=
  match p.field? key with
  | some (.bool b) => b
  | _ => false

/-- The items of a list field; none when it is missing or not a list. -/
def Payload.items (p : Payload) (key : String) : List Payload :=
  match p.field? key with
  | some (.list xs) => xs
  | _ => []

/-- A reading read back from a payload. -/
def Reading.ofPayload (p : Payload) : Reading :=
  ⟨p.integer "channel", p.number "frequency_hz", p.number "power_dbm", p.number "ase_noise_dbm",
    p.number "nli_noise_dbm", p.number "osnr_db", p.number "gosnr_db"⟩

/-- A report read back from a payload. -/
def Report.ofPayload (p : Payload) : Report :=
  ⟨p.integer "channel", p.integer "port", p.integer "transceiver", p.flag "ok", p.text "reason",
    p.number "power_dbm", p.number "osnr_db", p.number "gosnr_db", p.number "threshold_db"⟩

/-- The reports of every terminal read back from a pass answer; a terminal without reports is
left out. -/
def reportsOfPayload (p : Payload) : List (String × List Report) :=
  match p.field? "reports" with
  | some (.record fs) => fs.filterMap fun (t, v) =>
    match v with
    | .list (x :: xs) => some (t, (x :: xs).map Report.ofPayload)
    | _ => none
  | _ => []

/-- Reads the response of a successful call into the call's result. -/
def ClientCall.answer (c : ClientCall) (response : Option Payload) : Except Failure ClientAnswer :=
  let p := response.getD (.record [])
  match c with
  | .turnOn .. | .turnOff .. => .ok (.pass (reportsOfPayload p) (p.text "propagation_error"))
  | .opticalSignals .. | .monitor .. => .ok (.readings ((p.items "readings").map Reading.ofPayload))
  | .describeTopology =>
    match p.toJson with
    | .error m => .error (.plain m)
    | .ok j => (loadDescription (Json.compact j) "json").map .description
  | _ => .ok .done

end WdmNet.Control
