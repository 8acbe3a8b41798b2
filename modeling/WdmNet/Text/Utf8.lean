import WdmNet.Text.Quoted
/-!
Texts as UTF-8 bytes.

Some messages cut a text after a number of bytes, which may split a character, and some show
a piece of input byte by byte. `encodeChar` gives the bytes of a character; `decodeLossy`
reads bytes back, taking every byte that does not start a well-formed sequence (a bad first
byte, a missing or wrong continuation byte, an overlong form, a surrogate or a value past
U+10FFFF) as one replacement character U+FFFD, the way a lenient reader does. `quoteBytes`
writes bytes between double quotes as `quote` writes text, with such a byte as `\xNN`.
-/

namespace WdmNet.Text

/-- The UTF-8 bytes of a character. -/
def encodeChar (c : Char) : List Nat :=
  let n := c.toNat
  if n < 0x80 then [n]
  else if n < 0x800 then [0xC0 + n / 64, 0x80 + n % 64]
  else if n < 0x10000 then [0xE0 + n / 4096, 0x80 + n / 64 % 64, 0x80 + n % 64]
  else [0xF0 + n / 262144, 0x80 + n / 4096 % 64, 0x80 + n / 64 % 64, 0x80 + n % 64]

/-- The UTF-8 bytes of a text. -/
def utf8 (s : String) : List Nat := s.toList.flatMap encodeChar

/-- The number of UTF-8 bytes of a text. -/
def byteLength (s : String) : Nat := (utf8 s).length

/-- Whether a byte continues a sequence, within the bounds the lead byte allows. -/
def inRange (lo hi b : Nat) : Bool := lo ≤ b && b ≤ hi

/-- The character at the front of some bytes and how many continuation bytes follow its first
one, or `none` when the first byte does not start a well-formed sequence. -/
def decodeFront : List Nat → Option (Char × Nat)
  | [] => none
  | b0 :: rest =>
    if b0 < 0x80 then some (Char.ofNat b0, 0)
    else if b0 < 0xC2 then none
    else if b0 < 0xE0 then
      match rest with
      | b1 :: _ => if inRange 0x80 0xBF b1 then some (Char.ofNat ((b0 - 0xC0) * 64 + (b1 - 0x80)), 1) else none
      | [] => none
    else if b0 < 0xF0 then
      let lo := if b0 == 0xE0 then 0xA0 else 0x80
      let hi := if b0 == 0xED then 0x9F else 0xBF
      match rest with
      | b1 :: b2 :: _ =>
        if inRange lo hi b1 && inRange 0x80 0xBF b2 then
          some (Char.ofNat ((b0 - 0xE0) * 4096 + (b1 - 0x80) * 64 + (b2 - 0x80)), 2)
        else none
      | _ => none
    else if b0 < 0xF5 then
      let lo := if b0 == 0xF0 then 0x90 else 0x80
      let hi := if b0 == 0xF4 then 0x8F else 0xBF
      match rest with
      | b1 :: b2 :: b3 :: _ =>
        if inRange lo hi b1 && inRange 0x80 0xBF b2 && inRange 0x80 0xBF b3 then
          some (Char.ofNat ((b0 - 0xF0) * 262144 + (b1 - 0x80) * 4096 + (b2 - 0x80) * 64 + (b3 - 0x80)), 3)
        else none
      | _ => none
    else none

/-- The pieces of some bytes: a character, or a byte that starts no well-formed sequence. -/
def pieces (bs : List Nat) : List (Sum Char Nat) :=
  match bs with
  | [] => []
  | b :: rest =>
    match decodeFront (b :: rest) with
    | some (c, extra) => .inl c :: pieces (rest.drop extra)
    | none => .inr b :: pieces rest
termination_by bs.length
decreasing_by all_goals (simp only [List.length_cons, List.length_drop]; omega)

/-- Bytes read back as text, each byte that starts no well-formed sequence taken as U+FFFD. -/
def decodeLossy (bs : List Nat) : String :=
  String.ofList ((pieces bs).map fun | .inl c => c | .inr _ => Char.ofNat 0xFFFD)

/-- The first `n` bytes of a text, read back as text. -/
def takeBytes (s : String) (n : Nat) : String := decodeLossy ((utf8 s).take n)

/-- Bytes between double quotes: characters as `quoteChar` writes them, a byte that starts no
well-formed sequence as `\xNN`. -/
def quoteBytes (bs : List Nat) : String :=
  "\"" ++ String.join ((pieces bs).map fun
    | .inl c => quoteChar c
    | .inr b => "\\x" ++ hexDigits b 2) ++ "\""

end WdmNet.Text
