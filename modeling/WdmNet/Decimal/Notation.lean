import WdmNet.Decimal.Shortest
/-!
Decimal text of doubles.

Every rendering here starts from an exact decimal (`Scaled`): the shortest one that reads
back, or the value rounded to a number of places. Three notations write such a decimal:

* positional, `123.45`, with a chosen number of places or with exactly the digits it has;
* exponent, `1.2345e+02`: the digits with a point after the first, then `e`, the sign and at
  least two exponent digits;
* general: exponent notation when the leading digit's exponent is below `-4` or at least
  `6`, positional otherwise.

`jsonText` is the number text of data files and messages: positional from `1e-6` up to
`1e21`, exponent notation outside, with a single digit after `e-` where the exponent has one.
Infinities and NaN have no number text; the general notation writes them `+Inf`, `-Inf` and
`NaN`.
-/

namespace WdmNet.Decimal

/-- The digits of the coefficient, `"0"` for zero. -/
def Scaled.digitText (d : Scaled) : String := toString d.coeff

/-- The position of the decimal point relative to the digits: the value is
`0.digits * 10^pointPos`. -/
def Scaled.pointPos (d : Scaled) : Int := d.exp + (d.digitText.length : Int)

/-- The sign mark of a decimal. -/
def Scaled.signText (d : Scaled) : String := if d.neg then "-" else ""

/-- `n` copies of the digit zero. -/
def zeros (n : Nat) : String := String.ofList (List.replicate n '0')

/-- Positional notation with exactly `places` digits after the point (none and no point when
`places` is zero); digits beyond the coefficient are zeros. -/
def Scaled.positional (d : Scaled) (places : Nat) : String :=
  if d.coeff == 0 then d.signText ++ "0" ++ (if places == 0 then "" else "." ++ zeros places) else
  let ds := d.digitText
  let dp := d.pointPos
  let intPart := if dp ≤ 0 then "0" else
    if dp.toNat ≤ ds.length then String.ofList (ds.toList.take dp.toNat)
    else ds ++ zeros (dp.toNat - ds.length)
  let fracDigits : List Char :=
    if dp < 0 then List.replicate (-dp).toNat '0' ++ ds.toList
    else ds.toList.drop dp.toNat
  let frac := String.ofList ((fracDigits ++ List.replicate places '0').take places)
  d.signText ++ intPart ++ (if places == 0 then "" else "." ++ frac)

/-- Positional notation with exactly the digits of the decimal. -/
def Scaled.positionalExact (d : Scaled) : String :=
  d.positional (d.digitText.length - d.pointPos).toNat

/-- Exponent notation of the digits of the decimal: `d.ddde±XX`. -/
def Scaled.exponentForm (d : Scaled) : String :=
  let ds := d.digitText
  let e := if d.coeff == 0 then 0 else d.pointPos - 1
  let mant := match ds.toList with
    | [] => "0"
    | [c] => String.singleton c
    | c :: rest => String.singleton c ++ "." ++ String.ofList rest
  let eDigits := toString e.natAbs
  let eText := if eDigits.length < 2 then "0" ++ eDigits else eDigits
  d.signText ++ mant ++ "e" ++ (if e < 0 then "-" else "+") ++ eText

/-- General notation: exponent form when the leading digit's exponent is below `-4` or at
least `6`. -/
def Scaled.generalForm (d : Scaled) : String :=
  let e := if d.coeff == 0 then 0 else d.pointPos - 1
  if e < -4 || e ≥ 6 then d.exponentForm else d.positionalExact

/-- The shortest decimal that reads back as `x`. -/
def shortestOf (x : Float) : Scaled := (Binary.ofFloat x).shortest

/-- General notation of the shortest decimal of `x`; `+Inf`, `-Inf` and `NaN` otherwise. -/
def generalText (x : Float) : String :=
  if x.isNaN then "NaN"
  else if x.isInf then (if x > 0 then "+Inf" else "-Inf")
  else (shortestOf x).generalForm

/-- Number text of data files: positional between `1e-6` and `1e21` (and for zero),
exponent form outside with the exponent written `e-7` rather than `e-07`. Meant for finite
`x`. -/
def jsonText (x : Float) : String :=
  let d := shortestOf x
  let a := x.abs
  if a != 0 && (a < 1e-6 || a ≥ 1e21) then
    let s := d.exponentForm
    -- a negative exponent keeps a single digit when it has one
    match s.toList.reverse with
    | c1 :: '0' :: '-' :: 'e' :: rest => String.ofList ((c1 :: '-' :: 'e' :: rest).reverse)
    | _ => s
  else d.positionalExact

/-- `x` rounded to `places` decimal places (ties to even on the exact value) in positional
notation with exactly that many places; `+Inf`, `-Inf` and `NaN` for the others. -/
def fixedText (x : Float) (places : Nat) : String :=
  if x.isNaN then "NaN"
  else if x.isInf then (if x > 0 then "+Inf" else "-Inf")
  else ((Binary.ofFloat x).roundPlaces places).positional places

/-- The double nearest to a decimal. -/
def Scaled.toFloat (d : Scaled) : Float := d.nearest

/-- `x` rounded to `n` significant digits, as the nearest double. -/
def roundSignificantFloat (x : Float) (n : Nat) : Float :=
  if x.isNaN || x.isInf then x else ((Binary.ofFloat x).roundSignificant n).toFloat

/-- `x` rounded to `n` decimal places, as the nearest double. -/
def roundPlacesFloat (x : Float) (n : Nat) : Float :=
  if x.isNaN || x.isInf then x else ((Binary.ofFloat x).roundPlaces n).toFloat

end WdmNet.Decimal
