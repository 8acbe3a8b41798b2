import WdmNet.Network.Basic
/-!
Monitors: read-only views of the carriers at one location.

A monitor watches an amplifier, a span of a link, or a node port in one direction. Its
readings come from the carriers that last passed the location, each with the state its
signal recorded there on entry (`in`) or exit (`out`); a carrier whose signal has no record
of the location (because a later pass cut its path) gives no reading.
-/

namespace WdmNet

/-- Which side of a location is read. -/
inductive Mode where
  | entry
  | exit
  deriving DecidableEq, Repr, Inhabited

namespace Mode

/-- `in` or `out`. -/
def name : Mode → String
  | entry => "in"
  | exit => "out"

/-- Reads `in` or `out`; nothing at all means `out`. -/
def parse (s : String) : Except Failure Mode :=
  if s == "in" then .ok entry
  else if s == "out" || s.isEmpty then .ok exit
  else .error (.of .invalidConfig ("monitor mode " ++ q s))

/-- Whether this is the entry side. -/
def isEntry (m : Mode) : Bool := m == entry

end Mode

/-- The derived view of one channel at a location. -/
structure Reading where
  channel : Int
  frequencyHz : Float
  powerDbm : Float
  aseDbm : Float
  nliDbm : Float
  osnrDb : Float
  gosnrDb : Float
  deriving Repr, Inhabited

/-- A location and the carriers that last passed it. -/
structure Monitor where
  location : Location
  carriers : ChannelSet
  deriving Repr, Inhabited

namespace Monitor

/-- The recorded state of a channel and its signal, if the channel passed and its signal
remembers the location. -/
def state (m : Monitor) (signals : Array Signal) (ch : Int) (mode : Mode) :
    Option (SignalState × Signal) := do
  let c ← m.carriers.find? ch
  let s := signals[c.sig]?.getD default
  let st ← s.stateAt m.location mode.isEntry
  pure (st, s)

/-- The channels that passed, in order. -/
def channels (m : Monitor) : List Int := m.carriers.channels

/-- One reading per carrier whose signal remembers the location, in channel order. -/
def readings (m : Monitor) (signals : Array Signal) (mode : Mode) : List Reading :=
  m.carriers.filterMap fun c =>
    let s := signals[c.sig]?.getD default
    (s.stateAt m.location mode.isEntry).map fun st =>
      ⟨s.index, s.frequency, Units.wattsToDbm st.power, Units.wattsToDbm st.ase,
       Units.wattsToDbm st.nli, osnrDb st, gosnrDb st s.symbolRate⟩

end Monitor

namespace Network

/-- A monitor on an amplifier. -/
def amplifierMonitor (n : Network) (name : String) : Except Failure Monitor := do
  let a ← n.amplifier name
  pure ⟨a.location, a.signals⟩

/-- A monitor on the span with this index on a link. -/
def spanMonitor (n : Network) (link : String) (index : Int) : Except Failure Monitor := do
  let l ← n.link link
  match (if index < 0 then none else l.hops[index.toNat]?) with
  | none => throw (.of .invalidConfig ("link " ++ q link ++ " has no span " ++ toString index))
  | some h =>
    let s := n.spans[h.span]?.getD default
    pure ⟨s.location, s.signals⟩

/-- A monitor on a node port: the arrivals of an input port or what leaves an output port. -/
def portMonitor (n : Network) (node : String) (port : Int) (direction : Mode) :
    Except Failure Monitor := do
  let nd ← n.node node
  if port < 0 then throw (.of .invalidPort (toString port))
  let kind := if direction.isEntry then LocationKind.nodeIn else .nodeOut
  pure ⟨⟨kind, nd.handle, port⟩, nd.portSet port direction.isEntry⟩

end Network

end WdmNet
