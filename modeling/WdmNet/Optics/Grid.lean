/-!
The channel grid and the physical constants of the optical layer.

Channels are numbered `1` to `90` on a fixed grid that starts at 191.3 THz with 50 GHz
spacing; channel `i` sits at `191.3 THz + i * 50 GHz` (the formula is applied to any integer,
on the grid or not). Noise is integrated over a 12.5 GHz reference bandwidth, dispersion is
quoted at 1550 nm, and a channel without a declared symbol rate runs at 32 GBd.
-/

namespace WdmNet.Grid

/-- Planck's constant in J·s. -/
def planck : Float := 6.62607015e-34

/-- The speed of light in vacuum, m/s. -/
def speedOfLight : Float := 299792458.0

/-- The frequency of channel zero, Hz. -/
def baseFrequency : Float := 191.3e12

/-- The distance between neighbouring channels, Hz. -/
def spacing : Float := 50e9

/-- The number of channels on the grid. -/
def channelCount : Nat := 90

/-- The symbol rate of a channel without one of its own, baud. -/
def defaultSymbolRate : Float := 32e9

/-- The bandwidth over which noise is integrated for OSNR, Hz. -/
def referenceBandwidth : Float := 12.5e9

/-- The wavelength at which dispersion is quoted, m. -/
def referenceWavelength : Float := 1550e-9

/-- Whether an index names a channel of the grid. -/
def isChannel (i : Int) : Bool := 1 ≤ i && i ≤ (channelCount : Int)

/-- The centre frequency of channel `i`, Hz. -/
def frequency (i : Int) : Float := baseFrequency + Float.ofInt i * spacing

end WdmNet.Grid
