import WdmNet.Network.Signal
import WdmNet.Optics.Scalar
import WdmNet.Text.Blank
import WdmNet.Decimal.Notation
/-!
Optical amplifiers: gain control, gain ripple and ASE noise.

An amplifier is set to a target gain. Its system gain is what it actually applies before the
wavelength-dependent ripple of its gain profile (flat, a sinusoidal ripple, or a tilt with a
ripple); automatic gain control adjusts the system gain until the gain the channels realise
matches the target, measured either on the total power or as the mean of the channel gains,
stopping within `1e-9` dB or after a maximum number of iterations. Gain control reads of the
carriers only their channels and powers, and is written over any number type
(`GainControl.adjustGain`); the amplifier runs it on doubles.

Each channel then gets its gain `g`, and ASE noise `NF · h · f · (g - 1) · B_ref` is added to
the amplified noise.
-/

namespace WdmNet

/-- The wavelength-dependent gain profiles. -/
inductive GainProfile where
  | flat
  | ripple
  | tilt
  deriving DecidableEq, Repr, Inhabited

namespace GainProfile

/-- The name of a profile. -/
def name : GainProfile → String
  | flat => "linear"
  | ripple => "wdg1"
  | tilt => "wdg2"

/-- The profile of exactly this name. -/
def ofName? (s : String) : Option GainProfile := [flat, ripple, tilt].find? (·.name == s)

/-- Reads a profile name in any case and with blanks around it; nothing at all means flat. -/
def parse (s : String) : Except Failure GainProfile :=
  let n := Text.lower (Text.trimSpace s)
  if n.isEmpty then .ok flat
  else match ofName? n with
    | some p => .ok p
    | none => .error (.of .invalidConfig ("unknown WDG profile " ++ q s))

/-- `2π`. -/
def twoPi : Float := 6.283185307179586

/-- The ripple of the profile as a function of the relative position `x ∈ [0, 1)` on the
grid, dB. -/
def shape : GainProfile → Float → Float
  | flat, _ => 0
  | ripple, x => 0.5 * Elementary.sin (twoPi * x * 90.0 / 30)
  | tilt, x => -0.5 + x + 0.2 * Elementary.cos (twoPi * x * 90.0 / 18)

/-- The ripple of channel `ch`, dB; zero off the grid. -/
def rippleDb (p : GainProfile) (ch : Int) : Float :=
  if Grid.isChannel ch then p.shape (Float.ofInt (ch - 1) / 90.0) else 0

end GainProfile

/-- The ripple of channel `ch` under the profile of exactly this name; zero for a name that is
no profile. -/
def rippleOfProfileName (name : String) (ch : Int) : Float :=
  match GainProfile.ofName? name with
  | some p => p.rippleDb ch
  | none => 0

/-- How automatic gain control measures the realised gain. -/
inductive GainControl where
  | totalPower
  | geometricMean
  deriving DecidableEq, Repr, Inhabited

namespace GainControl

/-- The name of a strategy. -/
def name : GainControl → String
  | totalPower => "total-power"
  | geometricMean => "geometric-mean"

/-- Reads a strategy name in any case and with blanks around it; nothing at all means total
power. -/
def parse (s : String) : Except Failure GainControl :=
  let n := Text.lower (Text.trimSpace s)
  if n.isEmpty || n == "total-power" then .ok totalPower
  else if n == "geometric-mean" then .ok geometricMean
  else .error (.of .invalidConfig ("unknown AGC strategy " ++ q s))

/-- A gain difference small enough to stop gain control, dB. -/
def gainToleranceDb {α : Type} [OfScientific α] : α := 1e-9

section
variable {α : Type} [Add α] [Sub α] [Mul α] [Div α] [LT α] [DecidableLT α] [LE α] [DecidableLE α]
  [OfNat α 0] [OfScientific α]

/-- The gain that carriers realise at system gain `systemDb`, dB, given each carrier's channel
and power and the ripple of each channel: the gain of the total power, or the mean of the
channel gains over the carriers that have power. -/
def realizedGain (g : GainControl) (S : Scalar α) (ripple : Int → α) (powers : List (Int × α))
    (systemDb : α) : α :=
  match g with
  | .geometricMean =>
    let gains := (powers.filter (·.2 > 0)).map fun c => systemDb + ripple c.1
    S.mean gains
  | .totalPower =>
    let inSum := S.sum (powers.map (·.2))
    let outSum := S.sum (powers.map fun c => c.2 * S.dbToLinear (systemDb + ripple c.1))
    S.linearToDb (outSum / inSum)

/-- Gain control from system gain `sys` after `iters` iterations, at most `fuel` more: each
iteration measures the realised gain and stops if it is within the tolerance of the target,
else moves the system gain by the difference. -/
def controlLoop (S : Scalar α) (realized : α → α) (target : α) : Nat → α → Nat → α × Nat
  | 0, sys, iters => (sys, iters)
  | fuel + 1, sys, iters =>
    let iters := iters + 1
    let diff := target - realized sys
    if S.abs diff ≤ gainToleranceDb then (sys, iters)
    else controlLoop S realized target fuel (sys + diff) iters

/-- Gain control for carriers given by their channels and powers, from system gain `sys`, with
at most `maxIters` iterations: the new system gain and the number of iterations; none, and the
gain unchanged, for no carriers or no power. -/
def adjustGain (g : GainControl) (S : Scalar α) (ripple : Int → α) (powers : List (Int × α))
    (target sys : α) (maxIters : Nat) : α × Nat :=
  if powers.isEmpty || powers.foldl (fun acc c => acc + c.2) 0 ≤ 0 then (sys, 0)
  else controlLoop S (g.realizedGain S ripple powers) target maxIters sys 0

end

end GainControl

/-- The configuration of an amplifier as given. -/
structure AmplifierConfig where
  targetGainDb : Float
  noiseFigureDb : Option Float
  wdg : String
  role : String
  agc : String
  maxAgcIterations : Int
  deriving Repr, Inhabited

/-- An amplifier with its gains, its last gain-control run and the carriers it last
amplified. -/
structure Amplifier where
  handle : Nat
  name : String
  /-- The configuration with profile and strategy named canonically, the role defaulted to
  `inline` and the iteration limit to 20. -/
  config : AmplifierConfig
  profile : GainProfile
  control : GainControl
  noiseFigureDb : Float
  targetGainDb : Float
  systemGainDb : Float
  lastIterations : Nat
  signals : ChannelSet
  deriving Repr, Inhabited

/-- The standard noise figure, dB. -/
def standardNoiseFigureDb : Float := 5.5

namespace Amplifier

/-- A new amplifier; the target gain must be finite and the profile and strategy known. -/
def create (handle : Nat) (name : String) (cfg : AmplifierConfig) : Except Failure Amplifier := do
  if cfg.targetGainDb.isNaN || cfg.targetGainDb.isInf then
    throw (.of .invalidConfig ("amplifier " ++ q name ++ " target gain " ++
      Decimal.generalText cfg.targetGainDb))
  let profile ← GainProfile.parse cfg.wdg
  let control ← GainControl.parse cfg.agc
  let cfg := { cfg with
    wdg := profile.name, agc := control.name
    role := if cfg.role.isEmpty then "inline" else cfg.role
    maxAgcIterations := if cfg.maxAgcIterations ≤ 0 then 20 else cfg.maxAgcIterations }
  pure { handle, name, config := cfg, profile, control
         noiseFigureDb := cfg.noiseFigureDb.getD standardNoiseFigureDb
         targetGainDb := cfg.targetGainDb, systemGainDb := cfg.targetGainDb
         lastIterations := 0, signals := [] }

/-- The location of the amplifier. -/
def location (a : Amplifier) : Location := ⟨.amplifier, a.handle, 0⟩

/-- Sets target and system gain; the gain must be finite. -/
def setGain (a : Amplifier) (db : Float) : Except Failure Amplifier :=
  if db.isNaN || db.isInf then
    .error (.of .invalidConfig ("amplifier " ++ q a.name ++ " target gain " ++ Decimal.generalText db))
  else .ok { a with targetGainDb := db, systemGainDb := db }

/-- Back to the configured gain, with no gain-control run and no carriers. -/
def reset (a : Amplifier) : Amplifier :=
  { a with targetGainDb := a.config.targetGainDb, systemGainDb := a.config.targetGainDb,
           lastIterations := 0, signals := [] }

/-- The channels of the carriers with their powers, as gain control reads them. -/
def channelPowers (set : ChannelSet) : List (Int × Float) :=
  set.map fun c => (c.channel, c.state.power)

/-- The gain the set of carriers realises at a given system gain, dB. -/
def realizedGainDb (a : Amplifier) (set : ChannelSet) (systemDb : Float) : Float :=
  a.control.realizedGain Scalar.float a.profile.rippleDb (channelPowers set) systemDb

/-- Runs gain control for a set of carriers: the amplifier with its new system gain and the
number of iterations; none for a set without power. -/
def adjustGain (a : Amplifier) (set : ChannelSet) : Amplifier × Nat :=
  let (sys, iters) := a.control.adjustGain Scalar.float a.profile.rippleDb (channelPowers set)
    a.targetGainDb a.systemGainDb a.config.maxAgcIterations.toNat
  ({ a with systemGainDb := sys, lastIterations := iters }, iters)

/-- The state of a carrier after the amplifier at its current system gain. -/
def amplifyState (a : Amplifier) (c : Carrier) : SignalState :=
  let nf := Units.dbToLinear a.noiseFigureDb
  let g := Units.dbToLinear (a.systemGainDb + a.profile.rippleDb c.channel)
  let ase := nf * Grid.planck * c.frequency * max (g - 1) 0 * Grid.referenceBandwidth
  ⟨c.state.power * g, c.state.ase * g + ase, c.state.nli * g⟩

end Amplifier

end WdmNet
