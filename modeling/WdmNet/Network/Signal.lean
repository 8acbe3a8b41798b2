import WdmNet.Optics.Grid
import WdmNet.Failure
/-!
Optical signals, the places they visit, and the carriers that move them.

A signal is one wavelength launched by a transmitter. Besides its channel it keeps the path
of its latest propagation: the visits, each a location with the pass that wrote it and the
state on entry and exit, and an index from location to position in the path. Recording a
visit first cuts the path back to just after the location the carrier came from, so a later
pass through the same components overwrites the old tail instead of growing the path; a
carrier that comes from nowhere starts a new path.

A carrier is a signal in flight: the signal's identity (its position in the network's list of
signals), its channel data, its running state, and the location it was last recorded at. A
channel set is a list of carriers sorted by channel.

Main definitions: `Signal.record`, `Signal.truncate`, `Signal.forget`, `Signal.stateAt`,
`Carrier`, `ChannelSet.find?`, `ChannelSet.sameAs`.
-/

namespace WdmNet

/-- Power, ASE noise and NLI noise of a channel, all in watts; ASE is integrated over the
reference bandwidth. -/
structure SignalState where
  power : Float
  ase : Float
  nli : Float
  deriving Repr, Inhabited

namespace SignalState

/-- Every quantity multiplied by the same factor. -/
def scale (s : SignalState) (f : Float) : SignalState := ⟨s.power * f, s.ase * f, s.nli * f⟩

/-- Equality of all three quantities as numbers (so `0 = -0` and NaN differs from itself). -/
def same (a b : SignalState) : Bool := a.power == b.power && a.ase == b.ase && a.nli == b.nli

end SignalState

/-- The class of place a signal can visit. -/
inductive LocationKind where
  | none
  | nodeIn
  | nodeOut
  | span
  | amplifier
  deriving DecidableEq, Repr, Inhabited, Ord

/-- The name of a class of place. -/
def LocationKind.name : LocationKind → String
  | .none => "none"
  | .nodeIn => "node-in"
  | .nodeOut => "node-out"
  | .span => "span"
  | .amplifier => "amplifier"

/-- A place a signal can visit: a node port in either direction, a span or an amplifier, by
handle; the port is zero for spans and amplifiers. -/
structure Location where
  kind : LocationKind
  id : Int
  port : Int
  deriving DecidableEq, Repr, Inhabited, Ord

namespace Location

/-- The place of no component, from which a new path starts. -/
def nowhere : Location := ⟨.none, 0, 0⟩

/-- Whether the location is a node port. -/
def isNode (l : Location) : Bool := l.kind == .nodeIn || l.kind == .nodeOut

/-- `kind(id:port)` for node ports, `kind(id)` otherwise. -/
def render (l : Location) : String :=
  if l.isNode then l.kind.name ++ "(" ++ toString l.id ++ ":" ++ toString l.port ++ ")"
  else l.kind.name ++ "(" ++ toString l.id ++ ")"

end Location

/-- One stop of a signal: where, in which pass, and the state on entry and exit. -/
structure Visit where
  location : Location
  pass : Nat
  entry : SignalState
  exit : SignalState
  deriving Repr, Inhabited

/-- A finite map kept as a list of pairs, the newest binding of a key first. -/
abbrev Assoc (κ α : Type) := List (κ × α)

namespace Assoc

/-- The value bound to a key. -/
def get? {κ α : Type} [DecidableEq κ] (m : Assoc κ α) (k : κ) : Option α :=
  (m.find? (·.1 == k)).map (·.2)

/-- The map without the key. -/
def erase {κ α : Type} [DecidableEq κ] (m : Assoc κ α) (k : κ) : Assoc κ α :=
  m.filter (·.1 != k)

/-- The map with the key bound to the value, replacing an earlier binding. -/
def set {κ α : Type} [DecidableEq κ] (m : Assoc κ α) (k : κ) (v : α) : Assoc κ α :=
  (k, v) :: m.erase k

end Assoc

/-- A wavelength launched by a transmitter, with the path of its latest propagation. -/
structure Signal where
  index : Int
  frequency : Float
  symbolRate : Float
  active : Bool
  visits : List Visit
  /-- Position in `visits` of each recorded location. -/
  positions : Assoc Location Nat
  deriving Repr, Inhabited

namespace Signal

/-- A new, inactive signal on a channel of the grid; a symbol rate that is not positive
means the default. -/
def create (index : Int) (symbolRate : Float) : Except Failure Signal :=
  if !Grid.isChannel index then .error (.of .invalidChannel (toString index))
  else .ok ⟨index, Grid.frequency index, if symbolRate ≤ 0 then Grid.defaultSymbolRate else symbolRate,
    false, [], []⟩

/-- The path cut back to its first `n` visits, forgetting the positions of the others. -/
def truncate (s : Signal) (n : Nat) : Signal :=
  if n ≥ s.visits.length then s
  else
    { s with
      visits := s.visits.take n
      positions := (s.visits.drop n).foldl (fun m v => m.erase v.location) s.positions }

/-- Records a visit of `loc`, reached from `prev`: the path is first cut back to just after
`prev`, or emptied when `prev` is nowhere or was not visited. -/
def record (s : Signal) (prev loc : Location) (pass : Nat) (entry exit : SignalState) :
    Signal :=
  let cut := if prev.kind != .none then
      match s.positions.get? prev with
      | some i => i + 1
      | none => 0
    else 0
  let t := s.truncate cut
  { t with
    positions := t.positions.set loc t.visits.length
    visits := t.visits ++ [⟨loc, pass, entry, exit⟩] }

/-- Forgets a location and everything recorded after it. -/
def forget (s : Signal) (loc : Location) : Signal :=
  match s.positions.get? loc with
  | some i => s.truncate i
  | none => s

/-- Forgets the whole path. -/
def clearPath (s : Signal) : Signal := { s with visits := [], positions := [] }

/-- Whether the path passes through a port of the node with this handle. -/
def visitedNode (s : Signal) (handle : Nat) : Bool :=
  s.visits.any fun v => v.location.isNode && v.location.id == (handle : Int)

/-- The state recorded at a location, on entry or on exit. -/
def stateAt (s : Signal) (loc : Location) (entry : Bool) : Option SignalState :=
  match s.positions.get? loc with
  | some i => (s.visits[i]?).map fun v => if entry then v.entry else v.exit
  | none => none

/-- The name of a signal, `ch` and its channel. -/
def name (s : Signal) : String := "ch" ++ toString s.index

end Signal

/-- A signal in flight: which signal (its position among the network's signals), its
channel data, its running state and the location it was last recorded at. -/
structure Carrier where
  sig : Nat
  channel : Int
  frequency : Float
  symbolRate : Float
  state : SignalState
  recordedAt : Location
  deriving Repr, Inhabited

/-- Carriers travelling together, sorted by channel. -/
abbrev ChannelSet := List Carrier

namespace ChannelSet

/-- The carrier of a channel. -/
def find? (cs : ChannelSet) (ch : Int) : Option Carrier := List.find? (·.channel == ch) cs

/-- The channels of the set, in order. -/
def channels (cs : ChannelSet) : List Int := List.map (·.channel) cs

/-- The sum of the carriers' powers. -/
def totalPower (cs : ChannelSet) : Float := List.foldl (fun acc c => acc + c.state.power) 0 cs

/-- Same signals with the same states, in the same order; where they were last recorded does
not count. -/
def sameAs : ChannelSet → ChannelSet → Bool
  | [], [] => true
  | a :: as, b :: bs => a.sig == b.sig && a.state.same b.state && sameAs as bs
  | _, _ => false

/-- The set sorted by channel (stable). -/
def sortByChannel (cs : ChannelSet) : ChannelSet := List.mergeSort cs (fun a b => a.channel ≤ b.channel)

end ChannelSet

end WdmNet
