/-!
Durations as text.

A duration of at least one second is written in hours, minutes and seconds (`1h2m3.5s`), the
leading zero units left out and the seconds carrying up to nine decimals. A shorter one is
written in the largest of milliseconds, microseconds (`µs`) and nanoseconds that fits, with up
to six, three or no decimals. Trailing zeros of the decimals are dropped, and the point with
them when nothing is left; zero is `0s`, and a negative duration has a minus in front.
-/

namespace WdmNet.Text

/-- The digits of `v mod 10^prec` as a decimal fraction without its trailing zeros (empty when
it is zero), and `v / 10^prec`. -/
def durationFraction (v prec : Nat) : String × Nat :=
  let frac := v % Nat.pow 10 prec
  let digits := (Nat.toDigits 10 frac)
  let padded := List.replicate (prec - digits.length) '0' ++ digits
  let kept := (padded.reverse.dropWhile (· == '0')).reverse
  (if kept.isEmpty then "" else "." ++ String.ofList kept, v / Nat.pow 10 prec)

/-- The text of a non-negative duration in nanoseconds. -/
def magnitudeText (u : Nat) : String :=
  if u == 0 then "0s"
  else if u < 1000 then toString u ++ "ns"
  else if u < 1000000 then
    let (f, i) := durationFraction u 3
    toString i ++ f ++ "µs"
  else if u < 1000000000 then
    let (f, i) := durationFraction u 6
    toString i ++ f ++ "ms"
  else
    let (f, secs) := durationFraction u 9
    let s := toString (secs % 60) ++ f ++ "s"
    let mins := secs / 60
    if mins == 0 then s
    else
      let s := toString (mins % 60) ++ "m" ++ s
      let hours := mins / 60
      if hours == 0 then s else toString hours ++ "h" ++ s

/-- The text of a duration in nanoseconds. -/
def durationText (ns : Int) : String :=
  if ns < 0 then "-" ++ magnitudeText ns.natAbs else magnitudeText ns.toNat

end WdmNet.Text
