import Std.Data.TreeMap
import WdmNet.Network.Signal
import WdmNet.Network.Roadm
import WdmNet.Optics.Modulation
import WdmNet.Optics.Units
/-!
Line terminals: transceivers, channel bindings and reception reports.

A terminal owns transceivers. A transmit binding ties a channel to a transceiver and an
output port and owns the signal launched on it; a receive binding ties a channel to a
transceiver and an input port. A transceiver transmits at most one channel and receives at
most one channel.

When a pass ends at a terminal, each receive binding on a port that got a delivery yields a
report: the channel is `missing` if it did not arrive, received if its generalized OSNR
reaches the transceiver's threshold, and `below threshold` otherwise.
-/

namespace WdmNet

/-- A channel sent by a transceiver on an output port, with the signal it launches. -/
structure TxBinding where
  transceiver : Int
  port : Int
  signal : Nat
  active : Bool
  deriving Repr, Inhabited

/-- A channel received by a transceiver on an input port. -/
structure RxBinding where
  transceiver : Int
  port : Int
  deriving Repr, Inhabited

/-- What a receiver made of a channel at the end of a pass. -/
structure Report where
  channel : Int
  port : Int
  transceiver : Int
  ok : Bool
  reason : String
  powerDbm : Float
  osnrDb : Float
  gosnrDb : Float
  thresholdDb : Float
  deriving Repr, Inhabited

/-- Signal to noise in dB: `-∞` without signal, `+∞` without noise. -/
def ratioDb (signal noise : Float) : Float :=
  if signal ≤ 0 then -(1 / 0)
  else if noise ≤ 0 then 1 / 0
  else Units.linearToDb (signal / noise)

/-- OSNR of a state, dB. -/
def osnrDb (st : SignalState) : Float := ratioDb st.power st.ase

/-- Generalized OSNR, dB: the NLI noise counts over the reference bandwidth relative to the
symbol rate. -/
def gosnrDb (st : SignalState) (symbolRate : Float) : Float :=
  let noise := if symbolRate > 0 then st.ase + st.nli * Grid.referenceBandwidth / symbolRate
    else st.ase
  ratioDb st.power noise

/-- A line terminal. -/
structure Terminal where
  handle : Nat
  name : String
  transceivers : List Transceiver
  tx : Std.TreeMap Int TxBinding
  rx : Std.TreeMap Int RxBinding
  inSets : Std.TreeMap Int ChannelSet
  outSets : Std.TreeMap Int ChannelSet
  portPass : Std.TreeMap Int Nat
  pending : PortSet
  reports : Std.TreeMap Int Report
  /-- Whether reports are handed to a listener at the end of each pass. -/
  listening : Bool

namespace Terminal

/-- A terminal with its transceivers: ids must be distinct and formats known; a missing
format is QPSK and a missing name `terminal-trxID`. -/
def create (handle : Nat) (name : String) (trxs : List Transceiver) : Except Failure Terminal := do
  let mut seen : List Int := []
  let mut out : List Transceiver := []
  for trx in trxs do
    if seen.contains trx.id then
      throw (.of .invalidConfig ("duplicate transceiver " ++ toString trx.id ++ " on " ++ q name))
    let modulation := if trx.modulation.isEmpty then "QPSK" else trx.modulation
    if (Modulation.ofName? modulation).isNone then
      throw (.of .invalidConfig ("transceiver " ++ toString trx.id ++ " modulation " ++ q modulation))
    let trxName := if trx.name.isEmpty then name ++ "-trx" ++ toString trx.id else trx.name
    seen := trx.id :: seen
    out := out ++ [{ trx with modulation, name := trxName }]
  pure { handle, name, transceivers := out, tx := {}, rx := {}, inSets := {}, outSets := {},
         portPass := {}, pending := {}, reports := {}, listening := false }

/-- The transceiver with this id. -/
def transceiver? (t : Terminal) (id : Int) : Option Transceiver := t.transceivers.find? (·.id == id)

/-- Forgets bindings, port state and reports; the listener stays. -/
def clear (t : Terminal) : Terminal :=
  { t with tx := {}, rx := {}, inSets := {}, outSets := {}, portPass := {}, pending := {},
           reports := {} }

/-- Binds a receive channel. -/
def assocRx (t : Terminal) (trxId ch port : Int) : Except Failure Terminal := do
  let some _ := t.transceiver? trxId
    | throw (.of .transceiverNotFound (toString trxId ++ " on " ++ q t.name))
  if !Grid.isChannel ch then throw (.of .invalidChannel (toString ch))
  if port < 0 then throw (.of .invalidPort (toString port))
  match t.rx.get? ch with
  | some b =>
    if b.transceiver == trxId && b.port == port then pure t
    else throw (.of .channelBound ("channel " ++ toString ch ++ " already received by transceiver " ++
      toString b.transceiver))
  | none =>
    match t.rx.toList.find? (fun (_, b) => b.transceiver == trxId) with
    | some (other, _) =>
      throw (.of .transceiverBusy ("transceiver " ++ toString trxId ++ " receives channel " ++
        toString other))
    | none => pure { t with rx := t.rx.insert ch ⟨trxId, port⟩ }

/-- Removes a receive binding and its report. -/
def disassocRx (t : Terminal) (ch : Int) : Except Failure Terminal :=
  if t.rx.contains ch then .ok { t with rx := t.rx.erase ch, reports := t.reports.erase ch }
  else .error (.of .invalidChannel ("channel " ++ toString ch ++ " not received by " ++ q t.name))

/-- Removes a transmit binding whose channel is off. -/
def disassocTx (t : Terminal) (ch : Int) : Except Failure Terminal :=
  match t.tx.get? ch with
  | none => .error (.of .invalidChannel ("channel " ++ toString ch ++ " not transmitted by " ++ q t.name))
  | some b =>
    if b.active then .error (.of .channelBound ("channel " ++ toString ch ++ " is still on"))
    else .ok { t with tx := t.tx.erase ch }

/-- The output ports of the transmit bindings of these channels, sorted, without repetitions. -/
def txPorts (t : Terminal) (channels : List Int) : List Int :=
  sortDedup (channels.filterMap fun ch => (t.tx.get? ch).map (·.port))

/-- The transmitted channels that are on. -/
def activeChannels (t : Terminal) : List Int :=
  t.tx.toList.filterMap fun (ch, b) => if b.active then some ch else none

/-- The channels of the latest reports that failed. -/
def failedChannels (t : Terminal) : List Int :=
  t.reports.toList.filterMap fun (ch, r) => if r.ok then none else some ch

/-- The carriers that arrived at an input port (`entry`) or left an output port. -/
def portSet (t : Terminal) (port : Int) (entry : Bool) : ChannelSet :=
  ((if entry then t.inSets else t.outSets).get? port).getD []

/-- Stores what arrived on an input port in a pass; the port becomes pending unless the same
pass already delivered the same carriers there. -/
def accept (t : Terminal) (pass : Nat) (port : Int) (set : ChannelSet) : Terminal :=
  let same := t.portPass.get? port == some pass && ((t.inSets.get? port).getD []).sameAs set
  { t with
    pending := if same then t.pending else t.pending.insert port ()
    portPass := t.portPass.insert port pass
    inSets := t.inSets.insert port set }

/-- The report for a receive binding from what arrived on its port; `rate` gives the symbol rate
of each signal. -/
def report (t : Terminal) (rate : Nat → Float) (ch : Int) (b : RxBinding) : Report :=
  let threshold := match t.transceiver? b.transceiver with
    | some trx => trx.thresholdDb
    | none => Modulation.qpsk.minGosnrDb
  let base : Report := ⟨ch, b.port, b.transceiver, false, "", -(1 / 0), -(1 / 0), -(1 / 0), threshold⟩
  match (t.portSet b.port true).find? ch with
  | none => { base with reason := "missing" }
  | some c =>
    let g := gosnrDb c.state (rate c.sig)
    let r := { base with powerDbm := Units.wattsToDbm c.state.power, osnrDb := osnrDb c.state,
                         gosnrDb := g }
    if g ≥ threshold then { r with ok := true } else { r with reason := "below threshold" }

/-- Reports for the receive bindings on the pending ports, grouped by port in port order; the
reports are stored and no port is pending afterwards. -/
def receive (t : Terminal) (rate : Nat → Float) : List (Int × List Report) × Terminal :=
  let ports := t.pending.keys
  let reps := t.rx.toList.filterMap fun (ch, b) =>
    if ports.contains b.port then some (t.report rate ch b) else none
  let t := { t with pending := {}, reports := reps.foldl (fun m r => m.insert r.channel r) t.reports }
  let byPort := (sortDedup (reps.map (·.port))).map fun p => (p, reps.filter (·.port == p))
  (byPort, t)

end Terminal

end WdmNet
