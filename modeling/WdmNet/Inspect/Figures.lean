import WdmNet.Json.Value
import WdmNet.Failure
/-!
Figures as inspection documents show them.

A level in decibels is written to nine decimal places, a negative zero as zero, and a level of
magnitude `1e15` or more as a quantity; any other quantity is written to twelve significant
digits. Rounding this way makes two computations that agree to far below a measurable
difference show the same figure. Infinite and undefined values, which JSON numbers cannot
hold, are written as the texts `Infinity`, `-Infinity` and `NaN`.

A failure is shown as its kind and its message.
-/

namespace WdmNet.Inspect

/-- The text standing for a value that is not finite. -/
def nonFinite? (x : Float) : Option Json :=
  if x.isNaN then some (.str "NaN")
  else if x.isInf then some (.str (if x > 0 then "Infinity" else "-Infinity"))
  else none

/-- A quantity to twelve significant digits. -/
def quantity (x : Float) : Json :=
  (nonFinite? x).getD (.ofFloat (Decimal.roundSignificantFloat x 12))

/-- A level in decibels to nine decimal places. -/
def level (x : Float) : Json :=
  match nonFinite? x with
  | some j => j
  | none =>
    if x.abs ≥ 1e15 then quantity x
    else
      let y := Decimal.roundPlacesFloat x 9
      .ofFloat (if y == 0 then 0 else y)

/-- A failure as its kind and message. -/
def failure (e : Failure) : Json :=
  .obj [("error", .str e.kindName), ("message", .str e.message)]

/-- A result, or its failure. -/
def orFailure (r : Except Failure Json) : Json :=
  match r with
  | .ok j => j
  | .error e => failure e

end WdmNet.Inspect
