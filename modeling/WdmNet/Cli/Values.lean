import WdmNet.Text.Quoted
/-!
Values of command-line flags.

An integer reads as a signed literal whose base its prefix gives: `0x` hexadecimal, `0o` or a
bare leading `0` octal, `0b` binary, decimal otherwise; after a prefix, single underscores may
separate digits. A value outside the signed 64-bit range is out of range, and any other value
that does not read is a parse error. A truth value is one of `1 t T TRUE true True` or
`0 f F FALSE false False`. A duration is `0` or a signed sequence of decimal numbers each
followed by a unit (`ns`, `us`, `µs`, `μs`, `ms`, `s`, `m`, `h`), within the signed 64-bit
range of nanoseconds.
-/

namespace WdmNet.Cli

/-- Why a flag value does not read. -/
inductive ValueError where
  | parse
  | range
  deriving DecidableEq, Repr, Inhabited

/-- The text of a value error. -/
def ValueError.text : ValueError → String
  | .parse => "parse error"
  | .range => "value out of range"

/-- The largest unsigned 64-bit value. -/
def maxUnsigned : Nat := Nat.pow 2 64 - 1

/-- The value of a digit or letter as a digit of a base up to 36. -/
def digitValue (c : Char) : Option Nat :=
  if c.isDigit then some (c.toNat - '0'.toNat)
  else
    let l := c.toLower
    if 'a' ≤ l && l ≤ 'z' then some (l.toNat - 'a'.toNat + 10) else none

/-- Accumulates digits of a base, skipping underscores; a value past the unsigned 64-bit range
is out of range as soon as it is reached. -/
def accumulate (base : Nat) : List Char → Nat → Except ValueError Nat
  | [], n => .ok n
  | c :: rest, n =>
    if c == '_' then accumulate base rest n
    else
      match digitValue c with
      | none => .error .parse
      | some d =>
        if d ≥ base then .error .parse
        else if n ≥ maxUnsigned / base + 1 then .error .range
        else
          let n' := n * base + d
          if n' > maxUnsigned then .error .range else accumulate base rest n'

/-- Whether the underscores of a literal each stand between two digits (a base prefix counts as
a digit). -/
def underscoresFit (s : String) : Bool :=
  let cs := match s.toList with
    | '+' :: r | '-' :: r => r
    | cs => cs
  let (start, hex, cs) : Char × Bool × List Char := match cs with
    | '0' :: c :: r =>
      let l := c.toLower
      if l == 'b' || l == 'o' || l == 'x' then ('0', l == 'x', r) else ('^', false, cs)
    | _ => ('^', false, cs)
  let step (st : Option Char) (c : Char) : Option Char :=
    st.bind fun saw =>
      if c.isDigit || (hex && 'a' ≤ c.toLower && c.toLower ≤ 'f') then some '0'
      else if c == '_' then (if saw == '0' then some '_' else none)
      else if saw == '_' then none
      else some '!'
  match cs.foldl step (some start) with
  | some saw => saw != '_'
  | none => false

/-- An unsigned literal with its base prefix. -/
def readUnsigned (s : String) : Except ValueError Nat :=
  let cs := s.toList
  if cs.isEmpty then .error .parse
  else
    let (base, digits) : Nat × List Char := match cs with
      | '0' :: c :: r@(_ :: _) =>
        let l := c.toLower
        if l == 'b' then (2, r) else if l == 'o' then (8, r) else if l == 'x' then (16, r)
        else (8, c :: r)
      | '0' :: r => (8, r)
      | _ => (10, cs)
    match accumulate base digits 0 with
    | .error e => .error e
    | .ok n => if cs.contains '_' && !underscoresFit s then .error .parse else .ok n

/-- A signed 64-bit integer literal. -/
def readInteger (s : String) : Except ValueError Int :=
  let (neg, body) := match s.toList with
    | '+' :: r => (false, String.ofList r)
    | '-' :: r => (true, String.ofList r)
    | _ => (false, s)
  if s.isEmpty then .error .parse
  else
    match readUnsigned body with
    | .error e => .error e
    | .ok n =>
      if !neg && n ≥ Nat.pow 2 63 then .error .range
      else if neg && n > Nat.pow 2 63 then .error .range
      else .ok (if neg then -(n : Int) else n)

/-- A truth value. -/
def readBool : String → Except ValueError Bool
  | "1" | "t" | "T" | "TRUE" | "true" | "True" => .ok true
  | "0" | "f" | "F" | "FALSE" | "false" | "False" => .ok false
  | _ => .error .parse

/-- The nanoseconds of a duration unit. -/
def unitNanos : String → Option Nat
  | "ns" => some 1
  | "us" | "µs" | "μs" => some 1000
  | "ms" => some 1000000
  | "s" => some 1000000000
  | "m" => some 60000000000
  | "h" => some 3600000000000
  | _ => none

/-- The value of leading decimal digits; none past `2^63`. -/
def leadingInt (ds : List Char) : Option Nat :=
  ds.foldl (fun acc c => acc.bind fun x =>
    if x > Nat.pow 2 63 / 10 then none
    else
      let y := x * 10 + (c.toNat - '0'.toNat)
      if y > Nat.pow 2 63 then none else some y) (some 0)

/-- The value of fraction digits and the power of ten they are scaled by; digits past the
64-bit range are ignored. -/
def leadingFraction (ds : List Char) : Nat × Float :=
  let (x, scale, _) := ds.foldl (fun (x, scale, spent) c =>
    if spent then (x, scale, true)
    else if x > (Nat.pow 2 63 - 1) / 10 then (x, scale, true)
    else
      let y := x * 10 + (c.toNat - '0'.toNat)
      if y > Nat.pow 2 63 then (x, scale, true) else (y, scale * 10, false)) ((0 : Nat), (1 : Float), false)
  (x, scale)

/-- Adds the segments of a duration (a number and a unit each) to `total` nanoseconds. -/
def durationSegments : Nat → List Char → Nat → Option Nat
  | 0, _, _ => none
  | _, [], total => some total
  | fuel + 1, c :: cs, total =>
    if !(c == '.' || c.isDigit) then none
    else
      let (whole, rest) := (c :: cs).span Char.isDigit
      match leadingInt whole with
      | none => none
      | some v =>
        let (f, scale, post, rest) : Nat × Float × Bool × List Char := match rest with
          | '.' :: r =>
            let (fd, r) := r.span Char.isDigit
            let (f, scale) := leadingFraction fd
            (f, scale, !fd.isEmpty, r)
          | r => (0, 1, false, r)
        if whole.isEmpty && !post then none
        else
          let (u, rest) := rest.span fun c => !(c == '.' || c.isDigit)
          if u.isEmpty then none
          else
            match unitNanos (String.ofList u) with
            | none => none
            | some unit =>
              if v > Nat.pow 2 63 / unit then none
              else
                let v := v * unit + (if f > 0 then (Float.ofNat f * (Float.ofNat unit / scale)).toUInt64.toNat else 0)
                if v > Nat.pow 2 63 then none
                else if total + v > Nat.pow 2 63 then none
                else durationSegments fuel rest (total + v)

/-- A duration in nanoseconds. -/
def readDuration (s : String) : Except ValueError Int :=
  let (neg, body) := match s.toList with
    | '-' :: r => (true, r)
    | '+' :: r => (false, r)
    | cs => (false, cs)
  if body == ['0'] then .ok 0
  else if body.isEmpty then .error .parse
  else
    match durationSegments (body.length + 1) body 0 with
    | none => .error .parse
    | some d =>
      if neg then .ok (-(d : Int))
      else if d > Nat.pow 2 63 - 1 then .error .parse
      else .ok d

end WdmNet.Cli
