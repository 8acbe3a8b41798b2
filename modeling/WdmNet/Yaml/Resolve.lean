import WdmNet.Decimal.Binary
import WdmNet.Text.Utf8
/-!
What a YAML scalar means.

A scalar without a tag, or with one of the core tags, resolves by its text:

* `~`, `null`, `Null`, `NULL` and the empty text are null;
* `true`, `True`, `TRUE`, `false`, `False`, `FALSE` are truth values;
* `.inf`, `-.inf`, `.nan` and their capitalised spellings are the special floats;
* text starting with a digit or a sign is a timestamp (`2001-12-14`, `2001-12-14t21:59:43.10Z`,
  `2001-12-14 21:59:43.10`, only when untagged or tagged `!!timestamp`), a 64-bit integer
  (underscores ignored, base prefixes `0b`, `0o`, `0x` and a leading `0` for octal), an
  unsigned 64-bit integer beyond the signed range, or a decimal float within the range of a
  double;
* text starting with `.` may be a float too;
* anything else is text.

Only the first character decides which of these are tried, so `yes`, `<<` or `+` are text. An
explicit tag must agree with the resolved one (an integer may stand for a float), except that
`!!str` and `!!binary` take any text; other tags leave the text as it is.

Tags are shown short: `tag:yaml.org,2002:int` as `!!int`.
-/

namespace WdmNet.Yaml

/-- The prefix of the standard tags. -/
def standardTagPrefix : String := "tag:yaml.org,2002:"

/-- A tag with the standard prefix written as `!!`. -/
def shortTag (tag : String) : String :=
  if tag.startsWith standardTagPrefix then "!!" ++ String.ofList (tag.toList.drop 18) else tag

/-- What a scalar resolves to. -/
inductive Scalar where
  | null
  | bool (b : Bool)
  /-- An integer within the signed 64-bit range. -/
  | int (i : Int)
  /-- An integer of the unsigned 64-bit range beyond the signed one. -/
  | uint (n : Nat)
  | float (x : Float)
  | str (s : String)
  | timestamp
  deriving Repr, Inhabited

/-! ### Integers -/

/-- The value of a digit in bases up to 36. -/
def digitValue (c : Char) : Option Nat :=
  if '0' ≤ c && c ≤ '9' then some (c.toNat - 48)
  else if 'a' ≤ c && c ≤ 'z' then some (c.toNat - 87)
  else if 'A' ≤ c && c ≤ 'Z' then some (c.toNat - 55)
  else none

/-- Whether the underscores of a numeral only separate digits (or a base prefix from a
digit). -/
def underscoresFit (s : List Char) : Bool :=
  let s := match s with
    | '+' :: r | '-' :: r => r
    | r => r
  let lower (c : Char) := Char.ofNat (c.toNat ||| 32)
  let (hex, rest, saw) := match s with
    | '0' :: c :: r =>
      if lower c == 'b' || lower c == 'o' || lower c == 'x' then (lower c == 'x', r, '0')
      else (false, s, '^')
    | _ => (false, s, '^')
  let final := rest.foldl (fun (saw : Option Char) c =>
    match saw with
    | none => none
    | some saw =>
      if ('0' ≤ c && c ≤ '9') || (hex && 'a' ≤ lower c && lower c ≤ 'f') then some '0'
      else if c == '_' then (if saw != '0' then none else some '_')
      else if saw == '_' then none
      else some '!') (some saw)
  match final with
  | some c => c != '_'
  | none => false

/-- The digits of a natural number in a base, below `2^64`; at least one digit. -/
def digitsBelow64 (base : Nat) (cs : List Char) : Option Nat :=
  if cs.isEmpty then none
  else cs.foldlM (fun n c => (digitValue c).bind fun d =>
    if d < base && base * n + d < Nat.pow 2 64 then some (base * n + d) else none) 0

/-- An unsigned 64-bit numeral in a base from 2 to 36, or with `base = 0` in the base its
prefix gives (`0b`, `0o`, `0x` before at least one more character, else a leading `0` for
octal, else decimal); with `base = 0` underscores may separate digits. -/
def parseUnsigned (s : List Char) (base : Nat) : Option Nat :=
  if s.isEmpty then none
  else if base != 0 then digitsBelow64 base s
  else
    let lower (c : Char) := Char.ofNat (c.toNat ||| 32)
    let (b, ds) : Nat × List Char := match s with
      | '0' :: c :: d :: r =>
        if lower c == 'b' then (2, d :: r)
        else if lower c == 'o' then (8, d :: r)
        else if lower c == 'x' then (16, d :: r)
        else (8, c :: d :: r)
      | '0' :: r => (8, r)
      | r => (10, r)
    if s.contains '_' && !underscoresFit s then none
    else
      let ds := ds.filter (· != '_')
      if ds.isEmpty then some 0 else digitsBelow64 b ds

/-- A signed 64-bit numeral: an optional sign, then an unsigned numeral as `parseUnsigned`
reads it. -/
def parseSigned (s : List Char) (base : Nat) : Option Int :=
  match s with
  | [] => none
  | c :: rest =>
    let (neg, body) := if c == '-' then (true, rest) else if c == '+' then (false, rest) else (false, s)
    match parseUnsigned body base with
    | some n =>
      if neg then (if n ≤ Nat.pow 2 63 then some (-(n : Int)) else none)
      else if n < Nat.pow 2 63 then some n else none
    | none => none

/-! ### Floats -/

/-- The double a decimal numeral (as `Decimal.Scaled.ofNumeral?` reads it) stands for, unless
it is too large for one. -/
def decimalFloat? (cs : List Char) : Option Float :=
  match Decimal.Scaled.ofNumeral? (String.ofList cs) with
  | some d => let x := d.nearest; if x.isInf then none else some x
  | none => none

/-- A float written from its point on: `.` and digits, with underscores between digits, and
an optional exponent. -/
def pointFloat? (s : String) : Option Float :=
  match s.toList with
  | '.' :: rest =>
    let mant := rest.takeWhile (fun c => c.isDigit || c == '_')
    let after := rest.drop mant.length
    let expOk := match after with
      | [] => true
      | e :: r =>
        if e == 'e' || e == 'E' then
          let r := match r with
            | '+' :: t | '-' :: t => t
            | t => t
          match r with
          | d :: t => d.isDigit && t.all (fun c => c.isDigit || c == '_')
          | [] => false
        else false
    if !(mant.any Char.isDigit) || !expOk then none
    else if s.contains '_' && !underscoresFit s.toList then none
    else decimalFloat? (s.toList.filter (· != '_'))
  | _ => none

/-! ### Timestamps -/

/-- One or two digits at the front, as a number. -/
def shortNumber : List Char → Option (Nat × List Char)
  | a :: b :: rest =>
    if !a.isDigit then none
    else if b.isDigit then some (10 * (a.toNat - 48) + (b.toNat - 48), rest)
    else some (a.toNat - 48, b :: rest)
  | [a] => if a.isDigit then some (a.toNat - 48, []) else none
  | [] => none

/-- Whether a year of the Gregorian calendar has 29 February. -/
def leapYear (y : Nat) : Bool := y % 4 == 0 && (y % 100 != 0 || y % 400 == 0)

/-- The number of days of a month (1 to 12) in a year. -/
def daysIn (month year : Nat) : Nat :=
  if month == 2 then (if leapYear year then 29 else 28)
  else if month == 4 || month == 6 || month == 9 || month == 11 then 30
  else 31

/-- A date `YYYY-M-D` (one or two digits for month and day) at the front; what follows. -/
def datePart (cs : List Char) : Option (List Char) :=
  match cs with
  | y1 :: y2 :: y3 :: y4 :: '-' :: rest =>
    if !(y1.isDigit && y2.isDigit && y3.isDigit && y4.isDigit) then none else
    let year := 1000 * (y1.toNat - 48) + 100 * (y2.toNat - 48) + 10 * (y3.toNat - 48) + (y4.toNat - 48)
    match shortNumber rest with
    | some (month, '-' :: rest) =>
      if month < 1 || month > 12 then none else
      match shortNumber rest with
      | some (day, rest) => if day < 1 || day > daysIn month year then none else some rest
      | none => none
    | _ => none
  | _ => none

/-- A time of day `h:m:s` (one or two digits each) with optional fractional seconds after a
point or comma, at the front; what follows. -/
def timePart (cs : List Char) : Option (List Char) :=
  match shortNumber cs with
  | some (hour, ':' :: rest) =>
    match shortNumber rest with
    | some (minute, ':' :: rest) =>
      match shortNumber rest with
      | some (second, rest) =>
        if hour ≥ 24 || minute ≥ 60 || second ≥ 60 then none
        else
          match rest with
          | p :: d :: more =>
            if (p == '.' || p == ',') && d.isDigit then some (more.dropWhile Char.isDigit)
            else some rest
          | _ => some rest
      | none => none
    | _ => none
  | _ => none

/-- A zone at the front: `Z` or `±hh:mm` with at most 24 hours and 60 minutes. -/
def zonePart : List Char → Option (List Char)
  | 'Z' :: rest => some rest
  | s :: h1 :: h2 :: ':' :: m1 :: m2 :: rest =>
    if (s == '+' || s == '-') && h1.isDigit && h2.isDigit && m1.isDigit && m2.isDigit &&
        10 * (h1.toNat - 48) + (h2.toNat - 48) ≤ 24 && 10 * (m1.toNat - 48) + (m2.toNat - 48) ≤ 60
    then some rest else none
  | _ => none

/-- Whether a text is a timestamp: a date, alone or followed by a time of day, either after
`T` or `t` with a zone, or after spaces without one. -/
def isTimestamp (s : String) : Bool :=
  let cs := s.toList
  match datePart cs with
  | none => false
  | some rest =>
    let withZone : Bool := match rest with
      | c :: more =>
        if c == 'T' || c == 't' then
          match (timePart more).bind zonePart with
          | some [] => true
          | _ => false
        else false
      | [] => false
    let spaced : Bool := match rest with
      | ' ' :: _ => timePart (rest.dropWhile (· == ' ')) == some []
      | _ => false
    rest.isEmpty || withZone || spaced

/-! ### Resolution -/

/-- The resolution of the words that need no further reading. -/
def resolveWord (s : String) : Option (String × Scalar) :=
  if s == "" || s == "~" || s == "null" || s == "Null" || s == "NULL" then some ("!!null", .null)
  else if s == "true" || s == "True" || s == "TRUE" then some ("!!bool", .bool true)
  else if s == "false" || s == "False" || s == "FALSE" then some ("!!bool", .bool false)
  else if s == ".nan" || s == ".NaN" || s == ".NAN" then some ("!!float", .float (0 / 0))
  else if s == ".inf" || s == ".Inf" || s == ".INF" || s == "+.inf" || s == "+.Inf" ||
      s == "+.INF" then some ("!!float", .float (1 / 0))
  else if s == "-.inf" || s == "-.Inf" || s == "-.INF" then some ("!!float", .float (-(1 / 0)))
  else none

/-- An integer or float written from a digit or sign on, underscores ignored. -/
def resolveNumber (s : String) : Option (String × Scalar) :=
  let plain := s.toList.filter (· != '_')
  match parseSigned plain 0 with
  | some i => some ("!!int", .int i)
  | none =>
  match parseUnsigned plain 0 with
  | some n => some ("!!int", .uint n)
  | none =>
  match decimalFloat? plain with
  | some x => some ("!!float", .float x)
  | none =>
  let signedIn (base : Nat) (digits : List Char) : Option (String × Scalar) :=
    match parseSigned digits base with
    | some i => some ("!!int", .int i)
    | none => none
  let unsignedIn (base : Nat) (digits : List Char) : Option (String × Scalar) :=
    match parseSigned digits base with
    | some i => some ("!!int", .int i)
    | none => (parseUnsigned digits base).map fun n => ("!!int", .uint n)
  match plain with
  | '0' :: 'b' :: r => unsignedIn 2 r
  | '-' :: '0' :: 'b' :: r => signedIn 2 ('-' :: r)
  | '0' :: 'o' :: r => unsignedIn 8 r
  | '-' :: '0' :: 'o' :: r => signedIn 8 ('-' :: r)
  | _ => none

/-- The tags whose scalars are resolved by their text. -/
def resolvableTag (tag : String) : Bool :=
  tag == "" || tag == "!!str" || tag == "!!bool" || tag == "!!int" || tag == "!!float" ||
    tag == "!!timestamp" || tag == "!!null"

/-- What a text resolves to under a (short) tag among the resolvable ones, before the tag is
checked against it. -/
def resolveText (tag s : String) : String × Scalar :=
  let hint : Option Char := match s.toList with
    | [] => some 'N'
    | c :: _ =>
      if c == '+' || c == '-' then some 'S'
      else if c.isDigit then some 'D'
      else if "yYnNtTfFoO~".toList.contains c then some 'M'
      else if c == '.' then some '.'
      else none
  let text : String × Scalar := ("!!str", .str s)
  match hint with
  | none => text
  | some h =>
    if tag == "!!str" || tag == "!!binary" then text
    else
      match resolveWord s with
      | some r => r
      | none =>
        if h == '.' then
          match pointFloat? s with
          | some x => ("!!float", .float x)
          | none => text
        else if h == 'D' || h == 'S' then
          if (tag == "" || tag == "!!timestamp") && isTimestamp s then ("!!timestamp", .timestamp)
          else (resolveNumber s).getD text
        else text

/-- Resolves a scalar: its tag and value, or the message for a text its explicit tag does not
fit. Tags that are not resolvable keep the text as it is. -/
def resolve (tag s : String) : Except String (String × Scalar) :=
  let tag := shortTag tag
  if !resolvableTag tag then .ok (tag, .str s)
  else
    let (rtag, out) := resolveText tag s
    if tag == "" || tag == rtag || tag == "!!str" || tag == "!!binary" then .ok (rtag, out)
    else
      match tag == "!!float", rtag == "!!int", out with
      | true, true, .int i => .ok ("!!float", .float (Float.ofInt i))
      | _, _, _ => .error ("cannot decode " ++ rtag ++ " " ++ "\x60" ++ s ++ "\x60 as a " ++ tag)

/-- The tag an untagged text resolves to. -/
def resolvedTag (s : String) : String := (resolveText "" s).1

/-! ### Base64 -/

/-- The value of a character of the standard base64 alphabet. -/
def base64Value (c : Char) : Option Nat :=
  if 'A' ≤ c && c ≤ 'Z' then some (c.toNat - 65)
  else if 'a' ≤ c && c ≤ 'z' then some (c.toNat - 71)
  else if '0' ≤ c && c ≤ '9' then some (c.toNat + 4)
  else if c == '+' then some 62
  else if c == '/' then some 63
  else none

/-- Decodes groups of four base64 characters, the last of which may end in `=` or `==`. -/
def base64Groups : List Char → Option (List Nat)
  | [] => some []
  | [a, b, '=', '='] => do
    let x ← base64Value a
    let y ← base64Value b
    pure [(64 * x + y) / 16]
  | [a, b, c, '='] => do
    let x ← base64Value a
    let y ← base64Value b
    let z ← base64Value c
    let n := (64 * (64 * x + y) + z) / 4
    pure [n / 256, n % 256]
  | a :: b :: c :: d :: rest => do
    let x ← base64Value a
    let y ← base64Value b
    let z ← base64Value c
    let w ← base64Value d
    let n := 64 * (64 * (64 * x + y) + z) + w
    let tail ← base64Groups rest
    pure ([n / 65536, n / 256 % 256, n % 256] ++ tail)
  | _ => none

/-- The bytes of standard padded base64 text, line breaks ignored. -/
def decodeBase64 (s : String) : Option (List Nat) :=
  base64Groups (s.toList.filter fun c => c != '\r' && c != '\n')

end WdmNet.Yaml
