import WdmNet.Optics.Elementary
/-!
Decibel scales.

A ratio `r` is `10 * log10 r` dB, and a power `p` in watts is `10 * log10 (1000 p)` dBm. A
ratio or power that is not positive is `-∞` on the decibel scale. The decimal logarithm is the
natural one times `1 / ln 10`.
-/

namespace WdmNet.Units

/-- `1 / ln 10`. -/
def invLn10 : Float := 0.43429448190325182765112891891660508229439700580366656611445378

/-- The decimal logarithm, as the natural logarithm scaled by `1 / ln 10`. -/
def log10 (x : Float) : Float := Elementary.log x * invLn10

/-- A decibel value as a linear ratio. -/
def dbToLinear (db : Float) : Float := Elementary.pow 10 (db / 10)

/-- A linear ratio in decibels; `-∞` unless positive. -/
def linearToDb (v : Float) : Float := if v ≤ 0 then -(1 / 0) else 10 * log10 v

/-- A power in dBm as watts. -/
def dbmToWatts (dbm : Float) : Float := dbToLinear dbm * 1e-3

/-- A power in watts as dBm. -/
def wattsToDbm (w : Float) : Float := linearToDb (w * 1e3)

end WdmNet.Units
