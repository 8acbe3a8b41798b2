import WdmNet.Text.Printable
/-!
Quoted text as messages show names and values.

A quoted text is the text between double quotes, each character written by `quoteChar`:
the quote and the backslash get a backslash, printable characters stand as they are, the
seven classic controls take their letter escapes (`\a \b \f \n \r \t \v`), other characters
below U+0080 a two-digit hex escape `\xNN`, and the remaining hidden characters `\uNNNN` or
`\UNNNNNNNN`. Hex digits are lower case.
-/

namespace WdmNet.Text

/-- The lower-case hex digits of `n`, left-padded with zeros to `width`. -/
def hexDigits (n width : Nat) : String :=
  let ds := Nat.toDigits 16 n
  String.ofList (List.replicate (width - ds.length) '0' ++ ds)

/-- How one character is written inside a quoted text. -/
def quoteChar (c : Char) : String :=
  if c == '"' then "\\\""
  else if c == '\\' then "\\\\"
  else if isPrintable c then String.singleton c
  else
    let n := c.toNat
    if n == 7 then "\\a" else if n == 8 then "\\b" else if n == 12 then "\\f"
    else if n == 10 then "\\n" else if n == 13 then "\\r" else if n == 9 then "\\t"
    else if n == 11 then "\\v"
    else if n < 0x80 then "\\x" ++ hexDigits n 2
    else if n < 0x10000 then "\\u" ++ hexDigits n 4
    else "\\U" ++ hexDigits n 8

/-- The body of a quoted text, without the enclosing quotes. -/
def quoteBody (s : String) : String := String.join (s.toList.map quoteChar)

/-- A text between double quotes with every character written by `quoteChar`. -/
def quote (s : String) : String := "\"" ++ quoteBody s ++ "\""

end WdmNet.Text
