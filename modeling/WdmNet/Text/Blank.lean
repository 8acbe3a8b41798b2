import WdmNet.Text.Case
/-!
Blanks and letter case of names.

Names and option words are compared after trimming the Unicode white space at both ends
(`isSpace`: the ASCII blanks, vertical tab and form feed, U+0085, U+00A0 and the separators of
the Z categories) and, where the spelling is free, after mapping every character to its
simple case partner (`lowerChar`, `upperChar`).
-/

namespace WdmNet.Text

/-- Unicode white space. -/
def isSpace (c : Char) : Bool :=
  let n := c.toNat
  n == 0x20 || (0x09 ≤ n && n ≤ 0x0D) || n == 0x85 || n == 0xA0 || n == 0x1680 ||
    (0x2000 ≤ n && n ≤ 0x200A) || n == 0x2028 || n == 0x2029 || n == 0x202F ||
    n == 0x205F || n == 0x3000

/-- The text without white space at either end. -/
def trimSpace (s : String) : String :=
  String.ofList ((s.toList.dropWhile isSpace).reverse.dropWhile isSpace).reverse

/-- The text in upper case. -/
def upper (s : String) : String := String.ofList (s.toList.map upperChar)

/-- The text in lower case. -/
def lower (s : String) : String := String.ofList (s.toList.map lowerChar)

end WdmNet.Text
