import Admission.Json.Value
import Admission.Text.Stray

/-!
# Writing JSON text

Compact text, no blanks, members in the order the object holds them. Strings escape what a
web page could misread as well as what JSON requires: `<`, `>` and `&` are written as
`\u003c`, `\u003e` and `\u0026`, and the line and paragraph separators U+2028 and U+2029 are escaped too.
Control characters take their short escape where JSON has one (`\b \f \n \r \t`), and
`\u00XX` otherwise. A stray byte (`Text.Stray`) is written `\ufffd`, so the text is UTF-8.
-/

namespace Admission.Json

/-- The lowercase hexadecimal digit of a value below 16. -/
def hexChar (n : Nat) : Char :=
  if n < 10 then Char.ofNat ('0'.toNat + n) else Char.ofNat ('a'.toNat + n - 10)

/-- The escape `\uXXXX` of a code unit. -/
def unicodeEscape (n : Nat) : List Char :=
  ['\\', 'u', hexChar (n / 4096 % 16), hexChar (n / 256 % 16), hexChar (n / 16 % 16),
    hexChar (n % 16)]

/-- How one character of a string is written. -/
def escapeChar (c : Char) : List Char :=
  if c == '"' then ['\\', '"']
  else if c == '\\' then ['\\', '\\']
  else if Text.Stray.isStray c then unicodeEscape 0xFFFD
  else if c == '\n' then ['\\', 'n']
  else if c == '\r' then ['\\', 'r']
  else if c == '\t' then ['\\', 't']
  else if c == '\x08' then ['\\', 'b']
  else if c == '\x0c' then ['\\', 'f']
  else if c.toNat < 0x20 || c == '<' || c == '>' || c == '&' || c.toNat == 0x2028
      || c.toNat == 0x2029 then unicodeEscape c.toNat
  else [c]

/-- A string as a quoted JSON string. -/
def quote (s : String) : String :=
  String.ofList ('"' :: (s.toList.flatMap escapeChar ++ ['"']))

mutual

/-- The compact text of a value. -/
def render : Json → String
  | .null => "null"
  | .bool true => "true"
  | .bool false => "false"
  | .number lit => lit
  | .string s => quote s
  | .array xs => "[" ++ renderItems xs ++ "]"
  | .object ms => "\x7b" ++ renderMembers ms ++ "\x7d"

/-- Array items, comma separated. -/
def renderItems : List Json → String
  | [] => ""
  | [x] => render x
  | x :: xs => render x ++ "," ++ renderItems xs

/-- Object members, comma separated. -/
def renderMembers : List (String × Json) → String
  | [] => ""
  | [(k, v)] => quote k ++ ":" ++ render v
  | (k, v) :: ms => quote k ++ ":" ++ render v ++ "," ++ renderMembers ms

end

end Admission.Json
