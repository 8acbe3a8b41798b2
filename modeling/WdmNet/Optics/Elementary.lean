import WdmNet.Decimal.Binary
/-!
Elementary functions as the simulator evaluates them.

Each function is a fixed sequence of double operations, so that its last bit is a function of
its argument alone and not of the platform's mathematical library.

* `exp` reduces `x` to `r = (x - k ln 2) / 16` with `k` the integer nearest to `x / ln 2`
  and `ln 2` kept in two parts, sums the Taylor series of `eʳ - 1` and doubles the argument
  four times through `e^(2s) - 1 = (eˢ - 1)(eˢ + 1)` before scaling by `2ᵏ`. Several steps
  are fused multiply-adds (`Decimal.fusedMulAdd`), rounded once.
* `log` splits the bits of `x` into the exponent field and a significand in `[1/2, 1)`, and
  evaluates `log(1 + f)` on `[√2/2 - 1, √2 - 1]` by a rational approximation in
  `s = f / (2 + f)`. The split reads the exponent field as it stands, also for subnormal
  arguments, whose significand then lies near `1/2`.
* `log1p` and `exp1m` are `log(1 + x)` and `eˣ - 1` without the cancellation of adding or
  subtracting one; `asinh` is built from `log`, `log1p` and the square root.
* `sin` and `cos` reduce the argument by multiples of `π/4` split into three parts and use
  one of two polynomials on the octant.
* `pow` computes `xʸ` as `x^frac(y)` through `exp` and `log` times `x^int(y)` by repeated
  squaring of the binary significand of `x`, the exponent being carried apart.
-/

namespace WdmNet.Elementary

/-- `2ⁿ` as a double. -/
def twoPow (n : Int) : Float := Float.scaleB 1 n

/-- `2ⁿ` for `-1022 ≤ n ≤ 1023`, built from its exponent field. -/
def twoPowBits (n : Int) : Float := Float.ofBits ((n + 1023).toNat.toUInt64 <<< 52)

/-- The nearest integer to a double below `2⁶³` in magnitude, a tie going to the even one. -/
def roundEven (t : Float) : Int :=
  let f := t.floor
  let n : Int := f.toInt64.toInt
  let d := t - f
  if d > 0.5 then n + 1 else if d < 0.5 then n else if n % 2 == 0 then n else n + 1

/-- `eˣ`: with `k` the integer nearest to `x / ln 2` and `ln 2` kept in two parts,
`r = (x - k ln 2) / 16`; `u = eʳ - 1` comes from the Taylor series up to `r⁸/8!`, and four
doublings `u ↦ (2 + u) u` turn it into `e^(16 r) - 1`, since `e^(2s) - 1 = (eˢ - 1)(eˢ + 1)`.
Working with `eˢ - 1` instead of `eˢ` keeps the small part exact through the doublings; the
last doubling and the final `+ 1` are one fused step, and the result is scaled by `2ᵏ`, in two
steps when that power is below the normal range. The reduction and the series use fused
multiply-adds as well. Beyond `709.78` the result is infinite. -/
def exp (x : Float) : Float :=
  let log2e : Float := 1.4426950408889634073599246810018920
  let ln2Hi : Float := 0.69314718055966295651160180568695068359375
  let ln2Lo : Float := 0.28235290563031577122588448175013436025525412068e-12
  let fma := Decimal.fusedMulAdd
  if x.isNaN then x
  else if x > 7.09782712893384e+02 then 1 / 0
  else if x.isInf then 0
  else
  let k : Int := roundEven (log2e * x)
  let kf := Float.ofInt k
  let r := fma (-ln2Hi) kf x
  let r := fma (-ln2Lo) kf r * 0.0625
  let u := fma 2.4801587301587301587e-5 r 1.9841269841269841270e-4
  let u := fma u r 1.3888888888888888889e-3
  let u := fma u r 8.3333333333333333333e-3
  let u := fma u r 4.1666666666666666667e-2
  let u := fma u r 1.6666666666666666667e-1
  let u := fma u r 0.5
  let u := fma u r 1.0
  let u := u * r
  let u := (2.0 + u) * u
  let u := (2.0 + u) * u
  let u := (2.0 + u) * u
  let y := fma (2.0 + u) u 1.0
  if k ≥ 1024 then 1 / 0
  else if k ≥ -1022 then y * twoPowBits k
  else if k < -1075 then 0
  else y * twoPowBits (k + 1022) * twoPowBits (-1022)

/-- `log x` for positive `x`; `-∞` at zero and NaN below it. The significand `f1` is the
fraction bits under the exponent of `1/2` and `k` the exponent field less 1022; when
`f1 ≤ √2/2` it is doubled and `k` lowered, so that `x = 2ᵏ (1 + f)` up to the subnormal
case. -/
def log (x : Float) : Float :=
  let ln2Hi : Float := 6.93147180369123816490e-01
  let ln2Lo : Float := 1.90821492927058770002e-10
  let l1 : Float := 6.666666666666735130e-01
  let l2 : Float := 3.999999999940941908e-01
  let l3 : Float := 2.857142874366239149e-01
  let l4 : Float := 2.222219843214978396e-01
  let l5 : Float := 1.818357216161805012e-01
  let l6 : Float := 1.531383769920937332e-01
  let l7 : Float := 1.479819860511658591e-01
  if x.isNaN then x
  else if x == 0 then -(1 / 0)
  else if x < 0 then 0 / 0
  else if x.isInf then x
  else
  let bits := x.toBits
  let f1 := Float.ofBits ((bits &&& 0x000FFFFFFFFFFFFF) ||| 0x3FE0000000000000)
  let k0 : Int := ((bits >>> 52).toNat : Int) - 1022
  let (f, kf) := if f1 ≤ 7.07106781186547524401e-01 then (f1 * 2 - 1, Float.ofInt (k0 - 1))
    else (f1 - 1, Float.ofInt k0)
  let s := f / (2 + f)
  let s2 := s * s
  let s4 := s2 * s2
  let t1 := s2 * (l1 + s4 * (l3 + s4 * (l5 + s4 * l7)))
  let t2 := s4 * (l2 + s4 * (l4 + s4 * l6))
  let r := t1 + t2
  let hfsq := 0.5 * f * f
  kf * ln2Hi - ((hfsq - (s * (hfsq + r) + kf * ln2Lo)) - f)

/-- `log(1 + x)`, accurate also for small `x`: `1 + x` is split into `2ᵏ (1 + f)` with a
correction `c` for the rounding of the sum, and `log(1 + f)` comes from the same
approximation as `log`. -/
def log1p (x : Float) : Float :=
  let sqrt2M1 : Float := 4.142135623730950488017e-01
  let sqrt2HalfM1 : Float := -2.928932188134524755992e-01
  let small : Float := 1.0 / 536870912.0
  let tiny : Float := 1.0 / 18014398509481984.0
  let two53 : Float := 9007199254740992.0
  let ln2Hi : Float := 6.93147180369123816490e-01
  let ln2Lo : Float := 1.90821492927058770002e-10
  let lp1 : Float := 6.666666666666735130e-01
  let lp2 : Float := 3.999999999940941908e-01
  let lp3 : Float := 2.857142874366239149e-01
  let lp4 : Float := 2.222219843214978396e-01
  let lp5 : Float := 1.818357216161805012e-01
  let lp6 : Float := 1.531383769920937332e-01
  let lp7 : Float := 1.479819860511658591e-01
  if x < -1 || x.isNaN then 0 / 0
  else if x == -1 then -(1 / 0)
  else if x.isInf then x
  else
  let absx := x.abs
  if absx < sqrt2M1 && absx < small then
    (if absx < tiny then x else x - x * x * 0.5)
  else
  -- `(f, iu, k, c)`: the reduced argument, its fraction bits (nonzero when reduction is
  -- skipped), the power of two and the correction term
  let (f, iu, k, c) : Float × UInt64 × Int × Float :=
    if absx < sqrt2M1 && x > sqrt2HalfM1 then (x, 1, 0, 0)
    else
    let (u, c) : Float × Float :=
      if absx < two53 then
        let u := 1.0 + x
        let k : Int := ((u.toBits >>> 52).toNat : Int) - 1023
        let c := if k > 0 then 1.0 - (u - x) else x - (u - 1.0)
        (u, c / u)
      else (x, 0)
    let k : Int := ((u.toBits >>> 52).toNat : Int) - 1023
    let iu := u.toBits &&& 0x000fffffffffffff
    if iu < 0x0006a09e667f3bcd then
      (Float.ofBits (iu ||| 0x3ff0000000000000) - 1.0, iu, k, c)
    else
      (Float.ofBits (iu ||| 0x3fe0000000000000) - 1.0, (0x0010000000000000 - iu) >>> 2, k + 1, c)
  let kf := Float.ofInt k
  let hfsq := 0.5 * f * f
  if iu == 0 then
    if f == 0 then
      (if k == 0 then 0 else kf * ln2Hi + (c + kf * ln2Lo))
    else
    let r := hfsq * (1.0 - 0.66666666666666666 * f)
    if k == 0 then f - r else kf * ln2Hi - ((r - (kf * ln2Lo + c)) - f)
  else
  let s := f / (2.0 + f)
  let z := s * s
  let r := z * (lp1 + z * (lp2 + z * (lp3 + z * (lp4 + z * (lp5 + z * (lp6 + z * lp7))))))
  if k == 0 then f - (hfsq - s * (hfsq + r))
  else kf * ln2Hi - ((hfsq - (s * (hfsq + r) + (kf * ln2Lo + c))) - f)

/-- The inverse hyperbolic sine, odd in `x`: `log(2x + 1/(√(x²+1) + x))` above 2,
`log x + ln 2` above `2²⁸`, `log1p(x + x²/(1 + √(1+x²)))` below 2, and `x` itself below
`2⁻²⁸`. -/
def asinh (x : Float) : Float :=
  let ln2 : Float := 6.93147180559945286227e-01
  if x.isNaN || x.isInf then x
  else
  let neg := x < 0
  let a := if neg then -x else x
  let t :=
    if a > 268435456.0 then log a + ln2
    else if a > 2 then log (2 * a + 1 / ((a * a + 1).sqrt + a))
    else if a < 1.0 / 268435456.0 then a
    else log1p (a + a * a / (1 + (1 + a * a).sqrt))
  if neg then -t else t

/-- The coefficients of the sine polynomial, highest first. -/
def sinCoeffs : List Float :=
  [1.58962301576546568060e-10, -2.50507477628578072866e-8, 2.75573136213857245213e-6,
   -1.98412698295895385996e-4, 8.33333333332211858878e-3, -1.66666666666666307295e-1]

/-- The coefficients of the cosine polynomial, highest first. -/
def cosCoeffs : List Float :=
  [-1.13585365213876817300e-11, 2.08757008419747316778e-9, -2.75573141792967388112e-7,
   2.48015872888517045348e-5, -1.38888888888730564116e-3, 4.16666666666665929218e-2]

/-- Horner evaluation: the first coefficient times `z`, plus the next, times `z`, and so on,
ending with the last coefficient added. -/
def horner (z : Float) : List Float → Float
  | [] => 0
  | c :: cs => cs.foldl (fun acc d => acc * z + d) c

/-- The sine of a reduced argument `z` with `|z| ≤ π/4`. -/
def sinReduced (z : Float) : Float :=
  let zz := z * z
  z + z * zz * horner zz sinCoeffs

/-- The cosine of a reduced argument `z` with `|z| ≤ π/4`. -/
def cosReduced (z : Float) : Float :=
  let zz := z * z
  1.0 - 0.5 * zz + zz * zz * horner zz cosCoeffs

/-- A non-negative argument as an octant `j < 8` and the remainder `z = x - j π/4`, `j`
even, with `π/4` subtracted in three parts; meant for arguments below `2²⁹`. -/
def octant (x : Float) : Nat × Float :=
  let pi4A : Float := 7.85398125648498535156e-1
  let pi4B : Float := 3.77489470793079817668e-8
  let pi4C : Float := 2.69515142907905952645e-15
  let j0 := (x * 1.2732395447351628).toUInt64.toNat
  let y0 := Float.ofNat j0
  let (j, y) := if j0 % 2 == 1 then (j0 + 1, y0 + 1) else (j0, y0)
  (j % 8, ((x - y * pi4A) - y * pi4B) - y * pi4C)

/-- The sine; NaN for infinite arguments. -/
def sin (x : Float) : Float :=
  if x == 0 || x.isNaN then x
  else if x.isInf then 0 / 0
  else
  let (j, z) := octant x.abs
  let neg := (x < 0) != (j > 3)
  let j := if j > 3 then j - 4 else j
  let y := if j == 1 || j == 2 then cosReduced z else sinReduced z
  if neg then -y else y

/-- The cosine; NaN for infinite arguments. -/
def cos (x : Float) : Float :=
  if x.isNaN || x.isInf then 0 / 0
  else
  let (j, z) := octant x.abs
  let neg := j > 3
  let j := if j > 3 then j - 4 else j
  let neg := if j > 1 then !neg else neg
  let y := if j == 1 || j == 2 then sinReduced z else cosReduced z
  if neg then -y else y

/-- `eˣ - 1`, accurate also for small `x`. -/
def exp1m (x : Float) : Float :=
  let othreshold : Float := 7.09782712893383973096e+02
  let ln2x56 : Float := 3.88162421113569373274e+01
  let ln2HalfX3 : Float := 1.03972077083991796413e+00
  let ln2Half : Float := 3.46573590279972654709e-01
  let ln2Hi : Float := 6.93147180369123816490e-01
  let ln2Lo : Float := 1.90821492927058770002e-10
  let invLn2 : Float := 1.44269504088896338700e+00
  let tiny : Float := 1.0 / 18014398509481984.0
  let q1 : Float := -3.33333333333331316428e-02
  let q2 : Float := 1.58730158725481460165e-03
  let q3 : Float := -7.93650757867487942473e-05
  let q4 : Float := 4.00821782732936239552e-06
  let q5 : Float := -2.01099218183624371326e-07
  if x.isNaN || (x.isInf && x > 0) then x
  else if x.isInf then -1
  else
  let neg := x < 0
  let absx := if neg then -x else x
  if absx ≥ ln2x56 && neg then -1
  else if absx ≥ ln2x56 && absx ≥ othreshold then 1 / 0
  else
  -- reduce the argument by k * ln 2
  let reduced : Option (Float × Float × Int) :=
    if absx > ln2Half then
      let (hi, lo, k) : Float × Float × Int :=
        if absx < ln2HalfX3 then
          if !neg then (x - ln2Hi, ln2Lo, 1) else (x + ln2Hi, -ln2Lo, -1)
        else
          let k : Int := if !neg then (invLn2 * x + 0.5).toInt64.toInt
            else (invLn2 * x - 0.5).toInt64.toInt
          let t := Float.ofInt k
          (x - t * ln2Hi, t * ln2Lo, k)
      let r := hi - lo
      some (r, (hi - r) - lo, k)
    else if absx < tiny then none
    else some (x, 0, 0)
  match reduced with
  | none => x
  | some (r, c, k) =>
    let hfx := 0.5 * r
    let hxs := r * hfx
    let r1 := 1 + hxs * (q1 + hxs * (q2 + hxs * (q3 + hxs * (q4 + hxs * q5))))
    let t := 3 - r1 * hfx
    let e0 := hxs * ((r1 - t) / (6.0 - r * t))
    if k == 0 then r - (r * e0 - hxs)
    else
    let e := (r * (e0 - c) - c) - hxs
    if k == -1 then 0.5 * (r - e) - 0.5
    else if k == 1 then
      if r < -0.25 then -2 * (e - (r + 0.5)) else 1 + 2 * (r - e)
    else if k ≤ -2 || k > 56 then
      let y := 1 - (e - r)
      let y := if k == 1024 then y * 2 * twoPow 1023 else y * twoPow k
      y - 1
    else if k < 20 then
      let t := 1 - twoPow (-k)
      (t - (e - r)) * twoPow k
    else
      let t := twoPow (-k)
      ((r - (e + t)) + 1) * twoPow k

/-- The integer and fractional parts of a non-negative double. -/
def splitParts (y : Float) : Float × Float :=
  if y < 1 then (0, y) else
  let i := y.floor
  (i, y - i)

/-- Repeated squaring of the binary significand `x1` (with exponent `xe`), multiplying into
`(a1, ae)` for each set bit of `i`; `fuel` bounds the number of bits. -/
def powBits : Nat → Nat → Float → Int → Float → Int → Float × Int
  | 0, _, _, _, a1, ae => (a1, ae)
  | fuel + 1, i, x1, xe, a1, ae =>
    if i == 0 then (a1, ae)
    else if xe < -4096 || 4096 < xe then (a1, ae + xe)
    else
      let (a1, ae) := if i % 2 == 1 then (a1 * x1, ae + xe) else (a1, ae)
      let x1 := x1 * x1
      let xe := 2 * xe
      let (x1, xe) := if x1 < 0.5 then (x1 + x1, xe - 1) else (x1, xe)
      powBits fuel (i / 2) x1 xe a1 ae

/-- `xʸ`: the fractional power (taken in `(-1/2, 1/2]`) through the exponential and
logarithm, the integer power by repeated squaring. -/
def pow (x y : Float) : Float :=
  if y == 0 || x == 1 then 1
  else if y == 1 then x
  else if x.isNaN || y.isNaN then 0 / 0
  else if x == 0 || y.isInf || x.isInf then Float.pow x y
  else if y == 0.5 then x.sqrt
  else if y == -0.5 then 1 / x.sqrt
  else
  let (yi0, yf0) := splitParts y.abs
  if yf0 != 0 && x < 0 then 0 / 0
  else if yi0 ≥ 9223372036854775808.0 then Float.pow x y
  else
  let (yi, yf) := if yf0 > 0.5 then (yi0 + 1, yf0 - 1) else (yi0, yf0)
  let a1 : Float := if yf != 0 then exp (yf * log x) else 1
  let (x1, xe) := x.frExp
  let (a1, ae) := powBits 64 yi.toUInt64.toNat x1 xe a1 0
  let (a1, ae) := if y < 0 then (1 / a1, -ae) else (a1, ae)
  Float.scaleB a1 ae

end WdmNet.Elementary
