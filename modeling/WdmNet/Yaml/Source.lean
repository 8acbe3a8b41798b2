import WdmNet.Yaml.Token
/-!
The characters of a YAML document as a reader delivers them.

A document is UTF-8 text. A byte order mark at its very start is dropped; the characters
after it form the stream the scanner reads, and past its end the stream reads as NUL.

The reader decodes the input a chunk at a time: it takes at most 512 bytes into its raw
buffer (counting the bytes of a character still incomplete at the end of the last chunk) and
decodes every complete character in it. It only goes back to the input when the scanner asks
for more characters than are decoded, and then it reads chunks until enough are, or the input
is exhausted, after which every request adds one NUL. A character outside the printable set
of YAML (tab, line feed, carriage return, U+0020 to U+007E, U+0085, U+00A0 to U+D7FF, U+E000
to U+FFFD and the planes above) is refused when its chunk is decoded: the document then fails
with "control characters are not allowed", however far the scanner got.

`Feed` is where the reader stands; `Feed.need` serves one request. Requests also decide which
character sits at the front of the reader's buffer (`Feed.front`), which a scanner test for a
byte order mark looks at.
-/

namespace WdmNet.Yaml

/-- Whether the reader accepts a character. -/
def allowedChar (c : Char) : Bool :=
  let n := c.toNat
  n == 0x09 || n == 0x0A || n == 0x0D || (0x20 ≤ n && n ≤ 0x7E) || n == 0x85 ||
    (0xA0 ≤ n && n ≤ 0xD7FF) || (0xE000 ≤ n && n ≤ 0xFFFD) || 0x10000 ≤ n

/-- The byte order mark. -/
def bom : Char := Char.ofNat 0xFEFF

/-- The input of a reader. -/
structure Source where
  /-- The characters after a leading byte order mark. -/
  chars : Array Char
  /-- For each character, the byte offset just after it in the input. -/
  ends : Array Nat
  /-- The byte offset of the first character. -/
  first : Nat
  /-- The number of bytes of the input. -/
  size : Nat
  /-- The index of the first character the reader refuses. -/
  refused : Option Nat
  deriving Repr, Inhabited

/-- The input of a reader for a text. -/
def Source.ofString (s : String) : Source :=
  let all := s.toList
  let (first, cs) := match all with
    | c :: rest => if c == bom then (3, rest) else (0, all)
    | [] => (0, [])
  let ends := (cs.foldl (fun (acc : Array Nat × Nat) c =>
    let e := acc.2 + c.utf8Size
    (acc.1.push e, e)) (#[], first)).1
  { chars := cs.toArray, ends, first, size := all.foldl (fun n c => n + c.utf8Size) 0,
    refused := cs.findIdx? (fun c => !allowedChar c) }

namespace Source

/-- The character at an index, NUL past the end. -/
def charAt (src : Source) (i : Nat) : Char := src.chars.getD i '\x00'

/-- The byte offset after the first `k` characters. -/
def endOf (src : Source) (k : Nat) : Nat :=
  if k == 0 then src.first else src.ends.getD (k - 1) src.size

/-- The number of characters, from the `k`-th on, complete within the first `taken` bytes,
added to `k`. -/
def completeUpTo (src : Source) (taken : Nat) : Nat → Nat → Nat
  | 0, k => k
  | fuel + 1, k =>
    if k < src.chars.size && src.ends.getD k 0 ≤ taken then src.completeUpTo taken fuel (k + 1)
    else k

end Source

/-- Bytes the reader's raw buffer holds. -/
def chunkBytes : Nat := 512

/-- Where a reader stands. -/
structure Feed where
  /-- Bytes taken from the input. -/
  taken : Nat
  /-- Characters decoded. -/
  decoded : Nat
  /-- Whether the input reported its end. -/
  eof : Bool
  /-- NULs delivered past the end. -/
  markers : Nat
  /-- The index of the character at the front of the buffer. -/
  front : Nat
  deriving Repr, Inhabited

/-- A reader that has looked at the start of the input for a byte order mark: it took one
chunk, and met the end of the input already if that chunk was shorter than a mark. -/
def Feed.initial (src : Source) : Feed :=
  { taken := min chunkBytes src.size, decoded := 0, eof := src.size < 3, markers := 0, front := 0 }

/-- The reader error for a refused character. -/
def refusedError : SyntaxError := ⟨.reader, "control characters are not allowed", .start, .start⟩

namespace Feed

/-- Takes the next chunk, or learns that the input has ended. -/
def takeChunk (src : Source) (f : Feed) : Feed :=
  if f.eof then f
  else if f.taken == src.size then { f with eof := true }
  else { f with taken := min (src.endOf f.decoded + chunkBytes) src.size }

/-- Decodes chunks until `want` characters are available or the input has ended. -/
def fill (src : Source) (want : Nat) : Nat → Feed → Bool → Except SyntaxError Feed
  | 0, f, _ => .ok f
  | fuel + 1, f, first =>
    let f := if !first || f.taken == src.endOf f.decoded then f.takeChunk src else f
    let d := src.completeUpTo f.taken src.chars.size f.decoded
    match src.refused with
    | some r =>
      if r < d then .error refusedError
      else
        let f := { f with decoded := d }
        if f.eof then .ok { f with markers := f.markers + 1 }
        else if want ≤ f.decoded + f.markers then .ok f
        else fill src want fuel f false
    | none =>
      let f := { f with decoded := d }
      if f.eof then .ok { f with markers := f.markers + 1 }
      else if want ≤ f.decoded + f.markers then .ok f
      else fill src want fuel f false

/-- Serves a request for `n` characters from index `pos` on. -/
def need (src : Source) (f : Feed) (pos n : Nat) : Except SyntaxError Feed :=
  if pos + n ≤ f.decoded + f.markers then .ok f
  else fill src (pos + n) (src.size + 2) { f with front := pos } true

end Feed

/-! ### Character classes -/

/-- A line break: carriage return, line feed, next line, line or paragraph separator. -/
def isBreak (c : Char) : Bool :=
  c == '\r' || c == '\n' || c.toNat == 0x85 || c.toNat == 0x2028 || c.toNat == 0x2029

/-- The end of the stream. -/
def isNul (c : Char) : Bool := c == '\x00'

/-- A line break or the end of the stream. -/
def isBreakOrEnd (c : Char) : Bool := isBreak c || isNul c

/-- A space or tab. -/
def isBlank (c : Char) : Bool := c == ' ' || c == '\t'

/-- A blank, a line break or the end of the stream. -/
def isBlankOrEnd (c : Char) : Bool := isBlank c || isBreakOrEnd c

/-- A letter, digit, underscore or hyphen. -/
def isWordChar (c : Char) : Bool :=
  ('0' ≤ c && c ≤ '9') || ('a' ≤ c && c ≤ 'z') || ('A' ≤ c && c ≤ 'Z') || c == '_' || c == '-'

/-- A decimal digit. -/
def isDigitChar (c : Char) : Bool := '0' ≤ c && c ≤ '9'

/-- A hexadecimal digit. -/
def isHexChar (c : Char) : Bool :=
  isDigitChar c || ('a' ≤ c && c ≤ 'f') || ('A' ≤ c && c ≤ 'F')

/-- The value of a hexadecimal digit. -/
def hexValue (c : Char) : Nat :=
  if isDigitChar c then c.toNat - 48
  else if 'a' ≤ c && c ≤ 'f' then c.toNat - 87
  else c.toNat - 55

/-- A character that may stand unescaped: line feed, U+0020 to U+007E, U+00A0 to U+D7FF, and
U+E000 to U+FFFD except the byte order mark. -/
def isPrintableChar (c : Char) : Bool :=
  let n := c.toNat
  n == 0x0A || (0x20 ≤ n && n ≤ 0x7E) || (0xA0 ≤ n && n ≤ 0xD7FF) ||
    (0xE000 ≤ n && n ≤ 0xFFFD && n != 0xFEFF)

/-- A flow indicator: comma and brackets. -/
def isFlowIndicator (c : Char) : Bool :=
  c == ',' || c == '[' || c == ']' || c == '{' || c == '}'

/-- A character of an anchor or alias name: printable, not blank, not a break, not a flow
indicator. -/
def isAnchorChar (c : Char) : Bool :=
  isPrintableChar c && !isBreak c && !isBlank c && !isFlowIndicator c

end WdmNet.Yaml
