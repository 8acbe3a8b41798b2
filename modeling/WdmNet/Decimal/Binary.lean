/-!
Exact arithmetic on the value of a double.

A finite double is `(-1)^neg * sig * 2^exp` with natural `sig`; `Binary.ofFloat` reads the
three parts off the bits. Every decimal question about a double (its leading decimal
exponent, its value rounded to a number of places or significant digits) is then answered
in exact natural-number arithmetic, never through a floating-point operation, so the digits
are the ones a correctly rounded conversion gives.

Main definitions:

* `Binary.ofFloat` — sign, significand and exponent of a double;
* `cmpScaled` — exact comparison of `a * 10^p` with `b * 2^k`;
* `Binary.decimalExponent` — the exponent of the leading decimal digit;
* `Binary.roundPlaces`, `Binary.roundSignificant` — rounding of the exact value, ties to even;
* `roundRatio`, `Binary.toBits` — a ratio rounded to the grid of doubles, and the bits of a
  point of the grid, so that a double is built from exact arithmetic alone (`Scaled.nearest`).
-/

namespace WdmNet.Decimal

/-- A finite double as `(-1)^neg * sig * 2^exp`. -/
structure Binary where
  neg : Bool
  sig : Nat
  exp : Int
  deriving Repr, DecidableEq

/-- A decimal `(-1)^neg * coeff * 10^exp`. -/
structure Scaled where
  neg : Bool
  coeff : Nat
  exp : Int
  deriving Repr, DecidableEq

/-- Sign, significand and exponent of a double, read from its bits; infinities and NaN read
as their bit pattern's finite neighbour and are excluded by the callers. -/
def Binary.ofFloat (x : Float) : Binary :=
  let b : Nat := x.toBits.toNat
  let biased : Nat := (b / Nat.pow 2 52) % Nat.pow 2 11
  let frac : Nat := b % Nat.pow 2 52
  let neg := b / Nat.pow 2 63 == 1
  if biased == 0 then ⟨neg, frac, -1074⟩ else ⟨neg, frac + Nat.pow 2 52, (biased : Int) - 1075⟩

/-- Compares `a * 10^p` with `b * 2^k` exactly, by clearing both denominators. -/
def cmpScaled (a : Nat) (p : Int) (b : Nat) (k : Int) : Ordering :=
  compare (a * Nat.pow 10 p.toNat * Nat.pow 2 (-k).toNat) (b * Nat.pow 2 k.toNat * Nat.pow 10 (-p).toNat)

/-- `⌊b * 2^k / 10^p⌋`. -/
def floorScaled (b : Nat) (k p : Int) : Nat :=
  b * Nat.pow 2 k.toNat * Nat.pow 10 (-p).toNat / (Nat.pow 2 (-k).toNat * Nat.pow 10 p.toNat)

/-- Number of decimal digits of a positive natural number. -/
def digitCount (n : Nat) : Nat := (Nat.toDigits 10 n).length

/-- Divides by ten while the number ends in a zero, counting the steps; `fuel` bounds them. -/
def stripZeros : Nat → Nat → Int → Nat × Int
  | 0, c, e => (c, e)
  | fuel + 1, c, e => if c != 0 && c % 10 == 0 then stripZeros fuel (c / 10) (e + 1) else (c, e)

/-- The decimal with the trailing zeros of its coefficient moved into the exponent. -/
def Scaled.normalize (d : Scaled) : Scaled :=
  let r := stripZeros (digitCount d.coeff) d.coeff d.exp
  ⟨d.neg, r.1, r.2⟩

/-- Whether the value is zero. -/
def Binary.isZero (x : Binary) : Bool := x.sig == 0

/-- The exponent `E` with `10^E ≤ |x| < 10^(E+1)`, for nonzero `x`. Every positive double
exceeds `10^-400`, so the digits of `⌊|x| * 10^400⌋` fix it. -/
def Binary.decimalExponent (x : Binary) : Int :=
  (digitCount (floorScaled x.sig x.exp (-400)) : Int) - 401

/-- Rounds `num / den` to the nearest natural number, a tie going to the even one. -/
def roundHalfEven (num den : Nat) : Nat :=
  let q := num / den
  let r := num % den
  if 2 * r > den then q + 1 else if 2 * r == den then q + q % 2 else q

/-- The exact value rounded to `n` decimal places, ties to even, as a coefficient of
`10^-n`. -/
def Binary.roundPlaces (x : Binary) (n : Nat) : Scaled :=
  let num := x.sig * Nat.pow 2 x.exp.toNat * Nat.pow 10 n
  let den := Nat.pow 2 (-x.exp).toNat
  ⟨x.neg, roundHalfEven num den, -(n : Int)⟩

/-- The exact value rounded to `n ≥ 1` significant decimal digits, ties to even. -/
def Binary.roundSignificant (x : Binary) (n : Nat) : Scaled :=
  if x.isZero then ⟨x.neg, 0, 0⟩ else
  let p := x.decimalExponent - n + 1
  let num := x.sig * Nat.pow 2 x.exp.toNat * Nat.pow 10 (-p).toNat
  let den := Nat.pow 2 (-x.exp).toNat * Nat.pow 10 p.toNat
  let q := roundHalfEven num den
  if q == Nat.pow 10 n then ⟨x.neg, q / 10, p + 1⟩ else ⟨x.neg, q, p⟩

/-- The bits of the double `(-1)^neg * sig * 2^exp` for a significand and exponent on its
grid (`sig < 2^53`, and `sig ≥ 2^52` unless `exp = -1074`); an exponent beyond that of the
largest double gives the infinity of the sign. -/
def Binary.toBits (x : Binary) : UInt64 :=
  let sign : Nat := if x.neg then Nat.pow 2 63 else 0
  if x.exp > 971 then UInt64.ofNat (sign + 2047 * Nat.pow 2 52)
  else if x.sig < Nat.pow 2 52 then UInt64.ofNat (sign + x.sig)
  else UInt64.ofNat (sign + (x.exp + 1075).toNat * Nat.pow 2 52 + (x.sig - Nat.pow 2 52))

/-- The double of a sign, significand and exponent on the grid of doubles. -/
def Binary.toFloat (x : Binary) : Float := Float.ofBits x.toBits

/-- `num / den` for positive `num` and `den` rounded to the grid of doubles, ties to even, as
a positive significand and exponent; an exponent beyond 971 when that is beyond the largest
double. The binary exponent `k` with `2^k ≤ num / den < 2^(k+1)` is one of the two candidates
the bit lengths allow; the quotient is then rounded once at the precision of a double (53 bits,
fewer below the normal range). -/
def roundRatio (num den : Nat) : Binary :=
  let k0 : Int := (num.log2 : Int) - den.log2
  let k := if num * Nat.pow 2 (-k0).toNat < den * Nat.pow 2 k0.toNat then k0 - 1 else k0
  let e := max (k - 52) (-1074)
  let sig := roundHalfEven (num * Nat.pow 2 (-e).toNat) (den * Nat.pow 2 e.toNat)
  if sig == Nat.pow 2 53 then ⟨false, Nat.pow 2 52, e + 1⟩ else ⟨false, sig, e⟩

/-- The double nearest to `num / den` for positive `num` and `den`, ties to even; infinity
when that is beyond the largest double. -/
def nearestOfRatio (num den : Nat) : Float := (roundRatio num den).toFloat

/-- `a * b + c` rounded once to the nearest double, ties to even. The exact value is an
integer over a common power of two: the product `sigₐ sig_b 2^(eₐ + e_b)` and the addend
`sig_c 2^e_c` are both brought to the smaller exponent and added with their signs, and
`nearestOfRatio` rounds the sum. Non-finite operands, a zero product or a zero addend take
the ordinary operations, which then round only once as well. -/
def fusedMulAdd (a b c : Float) : Float :=
  if !(a.isFinite && b.isFinite && c.isFinite) || a == 0 || b == 0 || c == 0 then a * b + c
  else
  let x := Binary.ofFloat a
  let y := Binary.ofFloat b
  let z := Binary.ofFloat c
  let pexp := x.exp + y.exp
  let e := min pexp z.exp
  let prod : Int := x.sig * y.sig * Nat.pow 2 (pexp - e).toNat
  let addend : Int := z.sig * Nat.pow 2 (z.exp - e).toNat
  let sum := (if x.neg != y.neg then -prod else prod) + (if z.neg then -addend else addend)
  if sum == 0 then 0 else
  let den := Nat.pow 2 (-e).toNat
  let mag := nearestOfRatio (sum.natAbs * Nat.pow 2 e.toNat) den
  if sum < 0 then -mag else mag

/-- The double nearest to a decimal, ties to even, with the decimal's sign (a zero too).
Magnitudes of `10^309` and more are infinite and those below `10^-324` are zero, decided on the
digit count alone. -/
def Scaled.nearest (d : Scaled) : Float :=
  let mag : Binary :=
    if d.coeff == 0 then ⟨false, 0, -1074⟩
    else
      let top := (digitCount d.coeff : Int) + d.exp
      if top > 309 then ⟨false, 0, 972⟩
      else if top < -324 then ⟨false, 0, -1074⟩
      else if d.exp ≥ 0 then roundRatio (d.coeff * Nat.pow 10 d.exp.toNat) 1
      else roundRatio d.coeff (Nat.pow 10 (-d.exp).toNat)
  { mag with neg := d.neg }.toFloat

/-- The double nearest to an integer, ties to even, as a conversion to a double rounds. -/
def ofInt (k : Int) : Float := Scaled.nearest ⟨decide (k < 0), k.natAbs, 0⟩

/-- The digits at the front of a list of characters, as a number and a count. -/
def leadingDigits (cs : List Char) : Nat × Nat × List Char :=
  let ds := cs.takeWhile Char.isDigit
  (ds.foldl (fun n c => 10 * n + (c.toNat - 48)) 0, ds.length, cs.drop ds.length)

/-- Reads a decimal numeral: an optional sign, digits with an optional point and fraction
(at least one digit in all), and an optional exponent. -/
def Scaled.ofNumeral? (s : String) : Option Scaled :=
  let cs := s.toList
  let (neg, cs) := match cs with
    | '-' :: r => (true, r)
    | '+' :: r => (false, r)
    | r => (false, r)
  let (ip, il, cs) := leadingDigits cs
  let (fp, fl, cs) := match cs with
    | '.' :: r => leadingDigits r
    | r => (0, 0, r)
  if il + fl == 0 then none else
  let expPart : Option Int := match cs with
    | [] => some 0
    | c :: r =>
      if c == 'e' || c == 'E' then
        let (eneg, r) := match r with
          | '-' :: r => (true, r)
          | '+' :: r => (false, r)
          | r => (false, r)
        let (ev, el, rest) := leadingDigits r
        if el == 0 || !rest.isEmpty then none
        else some (if eneg then -(ev : Int) else ev)
      else none
  expPart.map fun e => ⟨neg, ip * Nat.pow 10 fl + fp, e - fl⟩

end WdmNet.Decimal
