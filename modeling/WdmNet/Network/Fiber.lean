import WdmNet.Decimal.Notation
import WdmNet.Network.Signal
import WdmNet.Optics.Scalar
import WdmNet.Text.Blank
/-!
Fibre spans: attenuation, nonlinear interference and stimulated Raman scattering.

A span is configured by its length and fibre parameters; a parameter left at zero takes the
standard single-mode value (0.22 dB/km, 16.7 ps/nm/km, 1.27 /W/km, Raman gain 7e-14 m/W over
80 µm² and 15 THz). From them follow the field attenuation `α`, the effective and
asymptotic lengths, the dispersion `β₂` at 1550 nm and the Raman slope.

A set of carriers crosses a span in three steps: each channel gains the nonlinear
interference of the GN model, then (with two channels or more) the Raman model tilts the
powers, then each channel loses its attenuation.

The Raman models:

* `uniform` — Zirngibl's closed form for equally spaced, equally loaded channels, falling back
  to the exponential form otherwise;
* `general` — the exponential form `e^(-a (f - f_min))` renormalised to keep the total power;
* `sylvestre` — the exponential form about the highest frequency;
* `bigo` — the linear form `1 + a (f̄ - f)`, clipped at zero and renormalised if clipped;
* `none` — no tilt.

The Raman factors read of the carriers only their powers and frequencies, and the nonlinear
interference their powers, symbol rates and frequencies; both are written over any number type
(`RamanModel.factors`, `GnFibre.increments`), and the span computes them on doubles.
-/

namespace WdmNet

/-- The configuration of a fibre span; a fibre parameter of zero means its standard value. -/
structure SpanConfig where
  lengthKm : Float
  attenuationDbPerKm : Float
  /-- Attenuation overrides by channel, dB/km, sorted by channel. -/
  channelAttenuation : List (Int × Float)
  dispersionPsNmKm : Float
  nonlinearCoefficient : Float
  ramanGain : Float
  effectiveAreaUm2 : Float
  ramanBandwidthHz : Float
  disableNli : Bool
  deriving Repr, Inhabited

namespace SpanConfig

/-- The value itself, or the standard one when it is zero. -/
def orStandard (v standard : Float) : Float := if v == 0 then standard else v

/-- The configuration with every zero fibre parameter replaced by its standard value. -/
def withDefaults (c : SpanConfig) : SpanConfig :=
  { c with
    attenuationDbPerKm := orStandard c.attenuationDbPerKm 0.22
    dispersionPsNmKm := orStandard c.dispersionPsNmKm 16.7
    nonlinearCoefficient := orStandard c.nonlinearCoefficient 1.27
    ramanGain := orStandard c.ramanGain 7e-14
    effectiveAreaUm2 := orStandard c.effectiveAreaUm2 80.0
    ramanBandwidthHz := orStandard c.ramanBandwidthHz 15e12 }

/-- Rejects a negative or non-finite length, a negative attenuation, and an override for a
channel off the grid or with a negative value (the overrides are checked in channel order). -/
def validate (c : SpanConfig) : Except Failure Unit := do
  if c.lengthKm < 0 || c.lengthKm.isNaN || c.lengthKm.isInf then
    throw (.of .invalidConfig ("span length " ++ Decimal.generalText c.lengthKm ++ " km"))
  if c.attenuationDbPerKm < 0 then
    throw (.of .invalidConfig
      ("negative attenuation " ++ Decimal.generalText c.attenuationDbPerKm ++ " dB/km"))
  for (ch, a) in c.channelAttenuation do
    if !Grid.isChannel ch then
      throw (.of .invalidChannel ("attenuation override for channel " ++ toString ch))
    if a < 0 then
      throw (.of .invalidConfig ("negative attenuation " ++ Decimal.generalText a ++
        " dB/km on channel " ++ toString ch))

end SpanConfig

/-- A fibre span with its derived quantities and the carriers that last crossed it. -/
structure Span where
  handle : Nat
  config : SpanConfig
  lengthM : Float
  /-- Field attenuation, 1/m. -/
  alpha : Float
  effLength : Float
  asymLength : Float
  /-- Group-velocity dispersion, s²/m. -/
  beta2 : Float
  /-- Nonlinear coefficient, 1/W/m. -/
  gamma : Float
  /-- Raman gain slope, 1/(W·m·Hz). -/
  ramanSlope : Float
  signals : ChannelSet
  deriving Repr, Inhabited

/-- `20 log10 e`: decibels per neper of field. -/
def dbPerNeper : Float := 20 * Units.log10 2.718281828459045

/-- `2π c`, m/s. -/
def twoPiC : Float := 1883651567.3088534

/-- A span built from a configuration, which must pass `SpanConfig.validate`. -/
def Span.create (handle : Nat) (cfg : SpanConfig) : Except Failure Span := do
  cfg.validate
  let c := cfg.withDefaults
  let lengthM := c.lengthKm * 1e3
  let alpha := (c.attenuationDbPerKm * 1e-3) / dbPerNeper
  let (effLength, asymLength) :=
    if alpha > 0 then ((1 - Elementary.exp (-2 * alpha * lengthM)) / (2 * alpha), 1 / (2 * alpha))
    else (lengthM, lengthM)
  let d := c.dispersionPsNmKm * 1e-6
  let lambda := Grid.referenceWavelength
  let beta2 := -d * lambda * lambda / twoPiC
  pure {
    handle, config := c, lengthM, alpha, effLength, asymLength, beta2
    gamma := c.nonlinearCoefficient * 1e-3
    ramanSlope := c.ramanGain / (c.effectiveAreaUm2 * 1e-12 * c.ramanBandwidthHz)
    signals := [] }

namespace Span

/-- The location of the span. -/
def location (s : Span) : Location := ⟨.span, s.handle, 0⟩

/-- The loss of a channel over the span, dB: its attenuation (override or general) times the
length. -/
def attenuationDb (s : Span) (ch : Int) : Float :=
  let a := match s.config.channelAttenuation.find? (·.1 == ch) with
    | some (_, v) => v
    | none => s.config.attenuationDbPerKm
  a * s.config.lengthKm

end Span

/-- The models of stimulated Raman scattering between the channels of a span. -/
inductive RamanModel where
  | uniform
  | general
  | sylvestre
  | bigo
  | none
  deriving DecidableEq, Repr, Inhabited

namespace RamanModel

/-- The models by number. -/
def all : List RamanModel := [uniform, general, sylvestre, bigo, none]

/-- The name of a model. -/
def name : RamanModel → String
  | uniform => "zirngibl"
  | general => "zirngibl-general"
  | sylvestre => "sylvestre"
  | bigo => "bigo"
  | none => "none"

/-- The name of the model with this number, `SRSModel(n)` for a number without one. -/
def nameOfNumber (n : Int) : String :=
  if n ≥ 0 then
    match all[n.toNat]? with
    | some m => m.name
    | Option.none => "SRSModel(" ++ toString n ++ ")"
  else "SRSModel(" ++ toString n ++ ")"

/-- The number of a model. -/
def number (m : RamanModel) : Nat := (all.findIdx? (· == m)).getD 0

/-- Reads a model name in any case and with blanks around it; nothing at all means
`zirngibl`. -/
def parse (s : String) : Except Failure RamanModel :=
  let n := Text.lower (Text.trimSpace s)
  if n.isEmpty then .ok uniform
  else match all.find? (·.name == n) with
    | some m => .ok m
    | Option.none => .error (.of .invalidConfig ("unknown SRS model " ++ q s))

end RamanModel

section
variable {α : Type} [Add α] [Sub α] [Mul α] [Div α] [Neg α] [LT α] [DecidableLT α] [LE α]
  [DecidableLE α] [BEq α] [Min α] [Max α] [OfNat α 0] [OfNat α 1] [OfNat α 2] [OfScientific α]

/-- `e^(-a (f - ref))` per channel, scaled so that the power-weighted sum equals the total
power; all zero when that sum is zero or not finite. -/
def exponentialFactors (S : Scalar α) (powers freqs : List α) (a ref : α) : List α :=
  let total := S.sum powers
  let raw := freqs.map fun f => S.exp (-a * (f - ref))
  let den := S.dot powers raw
  if den == 0 || !S.finite den then raw.map fun _ => 0
  else raw.map (· * (total / den))

/-- The common channel spacing, if the channels are equally spaced and equally loaded (to a
relative `1e-9`). -/
def uniformSpacing (S : Scalar α) (powers freqs : List α) : Option α :=
  let tol : α := 1e-9
  match freqs.head?, freqs.getLast?, powers.head? with
  | some f0, some fn, some p0 =>
    let delta := (fn - f0) / S.ofNat (freqs.length - 1)
    if delta ≤ 0 then Option.none else
    let steps := List.zip (freqs.drop 1) freqs
    let spacingOk := steps.all fun (f, g) => !(S.abs (f - g - delta) > tol * delta)
    let loadOk := (powers.drop 1).all fun p => !(S.abs (p - p0) > tol * p0)
    if spacingOk && loadOk then some delta else Option.none
  | _, _, _ => Option.none

/-- The power factor of each carrier from Raman scattering over a span with this Raman slope
and effective length, given the carriers' powers and frequencies. -/
def RamanModel.factors (m : RamanModel) (S : Scalar α) (slope effLength : α)
    (powers freqs : List α) : List α :=
  let ones := powers.map fun _ => (1 : α)
  if powers.length < 2 || m == .none then ones else
  let total := S.sum powers
  let fmin := (freqs.drop 1).foldl min (freqs.headD 0)
  let fmax := (freqs.drop 1).foldl max (freqs.headD 0)
  let a := slope * total * effLength
  match m with
  | .uniform =>
    if total ≤ 0 || a == 0 then ones else
    match uniformSpacing S powers freqs with
    | Option.none => exponentialFactors S powers freqs a fmin
    | some delta =>
      let x := a * delta * S.ofNat powers.length
      let top := fmax + delta / 2
      freqs.map fun f => x * S.exp (a * (top - f)) / S.exp1m x
  | .general =>
    if total ≤ 0 then powers.map fun _ => 0 else exponentialFactors S powers freqs a fmin
  | .sylvestre =>
    if total ≤ 0 || a == 0 then ones else exponentialFactors S powers freqs a fmax
  | .bigo =>
    if total ≤ 0 then ones else
    let mean := S.dot powers freqs / total
    let raw := freqs.map fun f => 1 + a * (mean - f)
    let clipped := raw.any (· < 0)
    let factors := raw.map fun v => if v < 0 then 0 else v
    if clipped then
      let out := S.dot powers factors
      if out > 0 then factors.map (· * (total / out)) else factors
    else factors
  | .none => ones

end

/-! ### Nonlinear interference -/

/-- What the GN model reads of a fibre: whether NLI is disabled, the dispersion `β₂`, the
asymptotic and effective lengths and the nonlinear coefficient `γ`. -/
structure GnFibre (α : Type) where
  disabled : Bool
  beta2 : α
  asymLength : α
  effLength : α
  gamma : α

/-- What the GN model reads of a carrier. -/
structure GnChannel (α : Type) where
  power : α
  symbolRate : α
  frequency : α

namespace GnFibre

section
variable {α : Type} [Add α] [Sub α] [Mul α] [Div α] [LE α] [DecidableLE α] [BEq α] [OfNat α 0]
  [OfNat α 2]

/-- `16/27 (γ Leff)² / (2π |β₂| Lasym)`. -/
def coefficient (S : Scalar α) (fib : GnFibre α) : α :=
  let ge := fib.gamma * fib.effLength
  S.ofNat 16 / S.ofNat 27 * (ge * ge) / (2 * S.pi * S.abs fib.beta2 * fib.asymLength)

/-- `ψ` of a channel `ch` for the channel under test `cut`: the self-channel term
`asinh (π²/2 Lasym |β₂| Rc²)` when `ch` is `cut` itself, otherwise the difference of `asinh` at
the two edges of `ch` seen from `cut`, `asinh (π² Lasym |β₂| Rc (Δf ± Rk/2))`. -/
def psi (S : Scalar α) (fib : GnFibre α) (cut ch : GnChannel α) (self : Bool) : α :=
  let b2 := S.abs fib.beta2
  let rc := cut.symbolRate
  if self then S.asinh (S.pi * S.pi / 2 * fib.asymLength * b2 * rc * rc)
  else
    let df := S.abs (ch.frequency - cut.frequency)
    S.asinh (S.pi * S.pi * fib.asymLength * b2 * rc * (df + ch.symbolRate / 2)) -
      S.asinh (S.pi * S.pi * fib.asymLength * b2 * rc * (df - ch.symbolRate / 2))

/-- The interference of the channel under test `cut`, at position `c` of the set: the
incoherent sum, over the channels with a symbol rate, of `Gk² Gc ψ` with the power spectral
densities `G = P / R`, times the coefficient and `Rc`; zero for a channel without power or
symbol rate. -/
def channelIncrement (S : Scalar α) (fib : GnFibre α) (chs : List (GnChannel α))
    (cut : GnChannel α) (c : Nat) : α :=
  let rc := cut.symbolRate
  if rc ≤ 0 || cut.power ≤ 0 then 0 else
  let gc := cut.power / rc
  let gnli := chs.zipIdx.foldl (fun acc (ch, k) =>
    let rk := ch.symbolRate
    if rk ≤ 0 then acc else
    let gk := ch.power / rk
    acc + gk * gk * gc * fib.psi S cut ch (k == c)) 0
  gnli * fib.coefficient S * rc

/-- The nonlinear interference of each channel of a set, in order (GN model, incoherent sum
over the channels). Zero for every channel when NLI is disabled or the fibre has no dispersion
or no length. -/
def increments (S : Scalar α) (fib : GnFibre α) (chs : List (GnChannel α)) : List α :=
  if fib.disabled || fib.beta2 == 0 || fib.asymLength == 0 then chs.map fun _ => 0
  else chs.zipIdx.map fun (cut, c) => fib.channelIncrement S chs cut c

end

end GnFibre

namespace Span

/-- The quantities of the span that the GN model reads. -/
def gnFibre (s : Span) : GnFibre Float :=
  ⟨s.config.disableNli, s.beta2, s.asymLength, s.effLength, s.gamma⟩

/-- A carrier as the GN model sees it. -/
def gnChannel (c : Carrier) : GnChannel Float := ⟨c.state.power, c.symbolRate, c.frequency⟩

/-- The nonlinear interference a set of carriers picks up on the span, per carrier, in
watts. -/
def nliIncrements (s : Span) (set : ChannelSet) : List Float :=
  s.gnFibre.increments Scalar.float (set.map gnChannel)

/-- The power factor of each carrier from Raman scattering on the span. -/
def ramanFactors (s : Span) (m : RamanModel) (set : ChannelSet) : List Float :=
  m.factors Scalar.float s.ramanSlope s.effLength (set.map (·.state.power)) (set.map (·.frequency))

/-- The states of a set of carriers after the span: nonlinear interference added, Raman tilt
applied (two channels or more), attenuation taken off. -/
def transmit (s : Span) (m : RamanModel) (set : ChannelSet) : List SignalState :=
  let nli := s.nliIncrements set
  let withNli := List.zipWith (fun (c : Carrier) n => { c.state with nli := c.state.nli + n }) set nli
  let tilted :=
    if set.length > 1 then List.zipWith SignalState.scale withNli (s.ramanFactors m set)
    else withNli
  List.zipWith (fun (c : Carrier) st => st.scale (1 / Units.dbToLinear (s.attenuationDb c.channel)))
    set tilted

end Span

end WdmNet
