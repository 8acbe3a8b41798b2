import WdmNet.Json.Value
import WdmNet.Text.Quoted
/-!
JSON text.

Strings are written with `\"` and `\\`, the letter escapes `\b \f \n \r \t`, `\u00XX` for the
other controls, and `<`, `>`, `&`, U+2028 and U+2029 escaped as `\u` codes for the characters that
are unsafe inside HTML or script text. `compact` writes a document on one line without
blanks; `indented` puts every member and item on a line of its own, indented two blanks per
level, with `": "` after a key, and writes an empty object or array as `{}` or `[]`.
-/

namespace WdmNet.Json

/-- How one character is written inside a JSON string. -/
def escapeChar (c : Char) : String :=
  let n := c.toNat
  if c == '"' then "\\\"" else if c == '\\' then "\\\\"
  else if n == 8 then "\\b" else if n == 12 then "\\f" else if n == 10 then "\\n"
  else if n == 13 then "\\r" else if n == 9 then "\\t"
  else if n < 0x20 || c == '<' || c == '>' || c == '&' || n == 0x2028 || n == 0x2029 then
    "\\u" ++ Text.hexDigits n 4
  else String.singleton c

/-- A string as a JSON string literal. -/
def quoteString (s : String) : String := "\"" ++ String.join (s.toList.map escapeChar) ++ "\""

mutual
/-- A document on one line, without blanks. -/
def compact : Json → String
  | null => "null"
  | bool b => if b then "true" else "false"
  | num t => t
  | str s => quoteString s
  | arr items => "[" ++ compactItems items ++ "]"
  | obj ms => "\x7b" ++ compactMembers ms ++ "\x7d"

/-- Items separated by commas. -/
def compactItems : List Json → String
  | [] => ""
  | [j] => compact j
  | j :: rest => compact j ++ "," ++ compactItems rest

/-- Members separated by commas. -/
def compactMembers : List (String × Json) → String
  | [] => ""
  | [(k, j)] => quoteString k ++ ":" ++ compact j
  | (k, j) :: rest => quoteString k ++ ":" ++ compact j ++ "," ++ compactMembers rest
end

/-- A line break followed by the indentation of `depth` levels. -/
def newline (depth : Nat) : String := "\n" ++ String.ofList (List.replicate (2 * depth) ' ')

mutual
/-- A document with one member or item per line, nested `depth` levels deep. -/
def indentedAt (depth : Nat) : Json → String
  | arr [] => "[]"
  | obj [] => "\x7b\x7d"
  | arr items => "[" ++ indentedItems (depth + 1) items ++ newline depth ++ "]"
  | obj ms => "\x7b" ++ indentedMembers (depth + 1) ms ++ newline depth ++ "\x7d"
  | j => compact j

/-- Items, each on a line of its own. -/
def indentedItems (depth : Nat) : List Json → String
  | [] => ""
  | [j] => newline depth ++ indentedAt depth j
  | j :: rest => newline depth ++ indentedAt depth j ++ "," ++ indentedItems depth rest

/-- Members, each on a line of its own. -/
def indentedMembers (depth : Nat) : List (String × Json) → String
  | [] => ""
  | [(k, j)] => newline depth ++ quoteString k ++ ": " ++ indentedAt depth j
  | (k, j) :: rest =>
    newline depth ++ quoteString k ++ ": " ++ indentedAt depth j ++ "," ++
      indentedMembers depth rest
end

/-- A document with one member or item per line, two blanks per level. -/
def indented (j : Json) : String := indentedAt 0 j

end WdmNet.Json
