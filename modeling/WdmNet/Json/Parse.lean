import WdmNet.Json.Value
import WdmNet.Text.Utf8
import WdmNet.Text.Blank
/-!
Reading JSON text.

`readFirst` reads the first document of a text and ignores what follows it, as a stream
reader does; `readAll` reads a text that holds exactly one document. A syntax error names the
offending character and where it stood (`invalid character 'x' after array element`), or,
for a bad escape in a string, the escape as written (``invalid escape sequence `\q` in
string``: the backslash and the next byte, or for `\u` the backslash and the next five bytes);
a text that ends inside a document is `unexpected EOF`, and one with nothing but blanks is
`EOF`. Objects and arrays nest at most `maxDepth` deep; the bracket that would open one more
level is `exceeded max depth`.

The reader descends one level per opening bracket and consumes at least one character per
level, so the length of the text bounds its depth (`fuel`).
-/

namespace WdmNet.Json

/-- Why a text is not a JSON document. -/
inductive SyntaxError where
  /-- Nothing but blanks. -/
  | noDocument
  /-- The text ends inside a document. -/
  | truncated
  /-- An unexpected character, and what the reader was looking for. -/
  | invalidChar (c : Char) (context : String)
  /-- A bad escape in a string: the bytes it shows. -/
  | invalidEscape (shown : List Nat)
  /-- An object or array nested deeper than the reader allows. -/
  | tooDeep
  deriving Repr, BEq

/-- A character between single quotes: the single quote gets a backslash, the double quote
stands as it is, and everything else is written as in a quoted text. -/
def quoteRune (c : Char) : String :=
  if c == '\'' then "'\\''" else if c == '"' then "'\"'"
  else "'" ++ Text.quoteChar c ++ "'"

/-- Whether a piece of an escape is better shown quoted: a byte that is no character, a
backquote, the replacement character, white space or a hidden character. -/
def needsQuoting : Sum Char Nat → Bool
  | .inr _ => true
  | .inl c => c == Char.ofNat 96 || c.toNat == 0xFFFD || Text.isSpace c || !Text.isPrintable c

/-- How a bad escape is shown: between backquotes, or quoted when a piece needs it. -/
def showEscape (bs : List Nat) : String :=
  if (Text.pieces bs).any needsQuoting then Text.quoteBytes bs
  else String.singleton (Char.ofNat 96) ++ Text.decodeLossy bs ++ String.singleton (Char.ofNat 96)

/-- The message of a syntax error. -/
def SyntaxError.message : SyntaxError → String
  | .noDocument => "EOF"
  | .truncated => "unexpected EOF"
  | .invalidChar c ctx => "invalid character " ++ quoteRune c ++ " " ++ ctx
  | .invalidEscape bs => "invalid escape sequence " ++ showEscape bs ++ " in string"
  | .tooDeep => "exceeded max depth"

/-- Blanks between tokens. -/
def isBlank (c : Char) : Bool := c == ' ' || c == '\t' || c == '\n' || c == '\r'

/-- Drops leading blanks. -/
def skipBlanks (cs : List Char) : List Char := cs.dropWhile isBlank

/-- The value of a hex digit. -/
def hexValue (c : Char) : Option Nat :=
  if '0' ≤ c && c ≤ '9' then some (c.toNat - '0'.toNat)
  else if 'a' ≤ c && c ≤ 'f' then some (c.toNat - 'a'.toNat + 10)
  else if 'A' ≤ c && c ≤ 'F' then some (c.toNat - 'A'.toNat + 10)
  else none

/-- The value of four hex digits, if they are. -/
def hex4 (a b c d : Char) : Option Nat :=
  match hexValue a, hexValue b, hexValue c, hexValue d with
  | some x, some y, some z, some w => some (((x * 16 + y) * 16 + z) * 16 + w)
  | _, _, _, _ => none

/-- Whether a byte is a hex digit. -/
def isHexByte (b : Nat) : Bool := (hexValue (Char.ofNat b)).isSome

/-- The error for a `\u` escape followed by `cs` whose four hex digits are not all there: the
text ends inside what may still be an escape, or the escape shows as its first six bytes (all
that is left, if less). -/
def badHexEscape (cs : List Char) : SyntaxError :=
  let bs := ((('\\' :: 'u' :: cs).take 6).flatMap Text.encodeChar).take 6
  if bs.length < 6 && (bs.drop 2).all isHexByte then .truncated
  else .invalidEscape bs

/-- The character of a single letter escape. -/
def letterEscape (e : Char) : Option Char :=
  if e == '"' then some '"' else if e == '\\' then some '\\' else if e == '/' then some '/'
  else if e == 'b' then some (Char.ofNat 8) else if e == 'f' then some (Char.ofNat 12)
  else if e == 'n' then some '\n' else if e == 'r' then some '\r'
  else if e == 't' then some '\t' else none

/-- Whether a code point is the first half of a surrogate pair. -/
def isHighSurrogate (n : Nat) : Bool := 0xD800 ≤ n && n < 0xDC00

/-- Whether a code point is the second half of a surrogate pair. -/
def isLowSurrogate (n : Nat) : Bool := 0xDC00 ≤ n && n < 0xE000

/-- The character of a single `\u` escape; a surrogate half alone stands for U+FFFD. -/
def escapedUnit (n : Nat) : Char :=
  if isHighSurrogate n || isLowSurrogate n then Char.ofNat 0xFFFD else Char.ofNat n

/-- The body of a string literal after its opening quote; the accumulator holds the
characters read so far in reverse. A `\u` escape of a surrogate pair gives one character, a
lone surrogate U+FFFD. -/
def readString (acc : List Char) : List Char → Except SyntaxError (String × List Char)
  | [] => .error .truncated
  | '"' :: rest => .ok (String.ofList acc.reverse, rest)
  | '\\' :: 'u' :: a :: b :: c :: d :: '\\' :: 'u' :: e :: f :: g :: h :: more =>
    match hex4 a b c d with
    | none => .error (badHexEscape [a, b, c, d])
    | some hi =>
      match hex4 e f g h with
      | some lo =>
        if isHighSurrogate hi && isLowSurrogate lo then
          readString (Char.ofNat (0x10000 + (hi - 0xD800) * 1024 + (lo - 0xDC00)) :: acc) more
        else readString (escapedUnit hi :: acc) ('\\' :: 'u' :: e :: f :: g :: h :: more)
      | none => readString (escapedUnit hi :: acc) ('\\' :: 'u' :: e :: f :: g :: h :: more)
  | '\\' :: 'u' :: a :: b :: c :: d :: rest =>
    match hex4 a b c d with
    | none => .error (badHexEscape [a, b, c, d])
    | some hi => readString (escapedUnit hi :: acc) rest
  | '\\' :: 'u' :: rest => .error (badHexEscape rest)
  | '\\' :: e :: rest =>
    match letterEscape e with
    | some ch => readString (ch :: acc) rest
    | none => .error (.invalidEscape (92 :: (Text.encodeChar e).take 1))
  | ['\\'] => .error .truncated
  | c :: rest =>
    if c.toNat < 0x20 then .error (.invalidChar c "in string")
    else readString (c :: acc) rest
termination_by cs => cs.length

/-- Leading decimal digits and the rest. -/
def spanDigits (cs : List Char) : List Char × List Char :=
  (cs.takeWhile Char.isDigit, cs.dropWhile Char.isDigit)

/-- The exponent part of a number literal, if any, after the digits `acc`. -/
def readExponent (acc : List Char) (cs : List Char) : Except SyntaxError (String × List Char) :=
  match cs with
  | e :: rest =>
    if e == 'e' || e == 'E' then
      let (sgn, rest2) := match rest with
        | '+' :: r => (['+'], r)
        | '-' :: r => (['-'], r)
        | r => ([], r)
      match rest2 with
      | [] => .error .truncated
      | c :: _ =>
        if c.isDigit then
          let (ds, rest3) := spanDigits rest2
          .ok (String.ofList (acc ++ e :: sgn ++ ds), rest3)
        else .error (.invalidChar c "in numeric literal")
    else .ok (String.ofList acc, cs)
  | [] => .ok (String.ofList acc, [])

/-- The fraction and exponent parts of a number literal after its integer digits `acc`. -/
def readFraction (acc : List Char) (cs : List Char) : Except SyntaxError (String × List Char) :=
  match cs with
  | '.' :: rest =>
    match rest with
    | [] => .error .truncated
    | c :: _ =>
      if c.isDigit then
        let (ds, rest2) := spanDigits rest
        readExponent (acc ++ '.' :: ds) rest2
      else .error (.invalidChar c "in numeric literal")
  | _ => readExponent acc cs

/-- A number literal: an optional minus, `0` or digits not starting with `0`, an optional
fraction and an optional exponent. -/
def readNumber (cs : List Char) : Except SyntaxError (String × List Char) :=
  let (sgn, body) := match cs with
    | '-' :: r => (['-'], r)
    | r => ([], r)
  match body with
  | [] => .error .truncated
  | '0' :: rest => readFraction (sgn ++ ['0']) rest
  | c :: rest =>
    if c.isDigit then
      let (ds, rest2) := spanDigits rest
      readFraction (sgn ++ c :: ds) rest2
    else .error (.invalidChar c "in numeric literal")

/-- The remaining letters `want` of the literal `name`. -/
def readLiteral (name : String) (value : Json) :
    List Char → List Char → Except SyntaxError (Json × List Char)
  | [], cs => .ok (value, cs)
  | w :: ws, [] => let _ := (w, ws); .error .truncated
  | w :: ws, c :: cs =>
    if c == w then readLiteral name value ws cs
    else .error (.invalidChar c ("in literal " ++ name ++ " (expecting " ++ quoteRune w ++ ")"))

/-- The deepest nesting of objects and arrays a document may have. -/
def maxDepth : Nat := 10000

mutual
/-- One document at the front of the text, after optional blanks, inside `depth` open objects
and arrays. -/
def readValue : Nat → Nat → List Char → Except SyntaxError (Json × List Char)
  | 0, _, _ => .error .truncated
  | fuel + 1, depth, cs =>
    match skipBlanks cs with
    | [] => .error .truncated
    | '{' :: rest =>
      if depth ≥ maxDepth then .error .tooDeep else
      match skipBlanks rest with
      | '}' :: rest2 => .ok (obj [], rest2)
      | rest2 => readMembers fuel (depth + 1) [] rest2
    | '[' :: rest =>
      if depth ≥ maxDepth then .error .tooDeep else
      match skipBlanks rest with
      | ']' :: rest2 => .ok (arr [], rest2)
      | rest2 => readItems fuel (depth + 1) [] rest2
    | '"' :: rest => (readString [] rest).map fun (s, r) => (str s, r)
    | 't' :: rest => readLiteral "true" (bool true) ['r', 'u', 'e'] rest
    | 'f' :: rest => readLiteral "false" (bool false) ['a', 'l', 's', 'e'] rest
    | 'n' :: rest => readLiteral "null" null ['u', 'l', 'l'] rest
    | c :: rest =>
      if c == '-' || c.isDigit then (readNumber (c :: rest)).map fun (t, r) => (num t, r)
      else .error (.invalidChar c "looking for beginning of value")

/-- Members of an object from a key on; `acc` holds the members read so far in reverse. -/
def readMembers : Nat → Nat → List (String × Json) → List Char →
    Except SyntaxError (Json × List Char)
  | 0, _, _, _ => .error .truncated
  | fuel + 1, depth, acc, cs =>
    match skipBlanks cs with
    | [] => .error .truncated
    | '"' :: rest => do
      let (k, rest2) ← readString [] rest
      match skipBlanks rest2 with
      | [] => .error .truncated
      | ':' :: rest3 =>
        let (v, rest4) ← readValue fuel depth rest3
        match skipBlanks rest4 with
        | [] => .error .truncated
        | ',' :: rest5 => readMembers fuel depth ((k, v) :: acc) rest5
        | '}' :: rest5 => .ok (obj ((k, v) :: acc).reverse, rest5)
        | c :: _ => .error (.invalidChar c "after object key:value pair")
      | c :: _ => .error (.invalidChar c "after object key")
    | c :: _ => .error (.invalidChar c "looking for beginning of object key string")

/-- Items of an array from an item on; `acc` holds the items read so far in reverse. -/
def readItems : Nat → Nat → List Json → List Char → Except SyntaxError (Json × List Char)
  | 0, _, _, _ => .error .truncated
  | fuel + 1, depth, acc, cs => do
    let (v, rest) ← readValue fuel depth cs
    match skipBlanks rest with
    | [] => .error .truncated
    | ',' :: rest2 => readItems fuel depth (v :: acc) rest2
    | ']' :: rest2 => .ok (arr (v :: acc).reverse, rest2)
    | c :: _ => .error (.invalidChar c "after array element")
end

/-- The first document of a text; what follows it is ignored. -/
def readFirst (text : String) : Except SyntaxError Json :=
  let cs := skipBlanks text.toList
  if cs.isEmpty then .error .noDocument
  else (readValue (2 * cs.length + 2) 0 cs).map (·.1)

/-- A text holding exactly one document, blanks around it allowed. -/
def readAll (text : String) : Except SyntaxError Json := do
  let cs := text.toList
  let (v, rest) ← readValue (2 * cs.length + 2) 0 cs
  match skipBlanks rest with
  | [] => .ok v
  | c :: _ => .error (.invalidChar c "after top-level value")

end WdmNet.Json
