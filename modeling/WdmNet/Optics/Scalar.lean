import WdmNet.Optics.Lanes
import WdmNet.Optics.Units
/-!
The number types the optical formulas are evaluated in.

The formulas of gain control, of Raman scattering and of nonlinear interference are written
once, over any number type with an arithmetic and an order, and take what they need beyond that
from a `Scalar`: the exponential and `eˣ - 1`, the inverse hyperbolic sine, `π`, the absolute
value, the counting numbers, the decibel conversions, a test for finite values, and the sums,
dot products and means of the numerical library they call. The simulator runs them on doubles
(`Scalar.float`), with the elementary functions of `Elementary`, the decibel scales of `Units`
and the library's sums accumulated in lanes (`Lanes`); read over the real numbers, with the
plain sum, dot product and mean that the library documents, the same formulas are their exact
counterparts.
-/

namespace WdmNet

/-- What a formula needs of a number type beyond its arithmetic and order. -/
structure Scalar (α : Type) where
  exp : α → α
  /-- `eˣ - 1`. -/
  exp1m : α → α
  /-- The inverse hyperbolic sine. -/
  asinh : α → α
  pi : α
  abs : α → α
  ofNat : Nat → α
  /-- A decibel value as a linear ratio. -/
  dbToLinear : α → α
  /-- A linear ratio in decibels. -/
  linearToDb : α → α
  /-- Neither infinite nor NaN. -/
  finite : α → Bool
  /-- The sum of the values, documented as their plain sum. -/
  sum : List α → α
  /-- The dot product of two lists of one length, documented as the sum of the products. -/
  dot : List α → List α → α
  /-- The mean of the values with no weights, documented as their sum over their count. -/
  mean : List α → α

/-- Doubles, as the simulator computes with them. -/
def Scalar.float : Scalar Float where
  exp := Elementary.exp
  exp1m := Elementary.exp1m
  asinh := Elementary.asinh
  pi := 3.141592653589793
  abs := Float.abs
  ofNat := Float.ofNat
  dbToLinear := Units.dbToLinear
  linearToDb := Units.linearToDb
  finite x := !(x.isInf || x.isNaN)
  sum := Lanes.sum
  dot := Lanes.dot
  mean xs := Lanes.sum xs / Float.ofNat xs.length

end WdmNet
