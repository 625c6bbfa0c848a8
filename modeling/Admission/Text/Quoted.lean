import Admission.Text.Printable
import Admission.Text.Stray

/-!
# Quoted text

A text between double quotes, as messages show a value the caller gave: a printable character
stands for itself except the quote and the backslash, which take a backslash; the controls
with a short escape take it (`\a \b \f \n \r \t \v`); any other character below U+0020 and
DEL are written `\xXX`, and so is a stray byte (`Text.Stray`); any other character is written `\uXXXX`, or `\UXXXXXXXX` past U+FFFF.
Hexadecimal digits are lowercase.
-/

namespace Admission.Text

/-- `n` as exactly `width` lowercase hexadecimal digits. -/
def hexDigits (width n : Nat) : List Char :=
  (List.range width).reverse.map fun i =>
    let d := n / Nat.pow 16 i % 16
    if d < 10 then Char.ofNat ('0'.toNat + d) else Char.ofNat ('a'.toNat + d - 10)

/-- How one character is written inside quotes. -/
def quoteChar (c : Char) : List Char :=
  let n := c.toNat
  if let some b := Stray.strayByte? c then '\\' :: 'x' :: hexDigits 2 b.toNat
  else if c == '"' then ['\\', '"']
  else if c == '\\' then ['\\', '\\']
  else if Printable.isPrintable c then [c]
  else if n == 7 then ['\\', 'a']
  else if n == 8 then ['\\', 'b']
  else if n == 12 then ['\\', 'f']
  else if n == 10 then ['\\', 'n']
  else if n == 13 then ['\\', 'r']
  else if n == 9 then ['\\', 't']
  else if n == 11 then ['\\', 'v']
  else if n < 0x20 || n == 0x7F then '\\' :: 'x' :: hexDigits 2 n
  else if n < 0x10000 then '\\' :: 'u' :: hexDigits 4 n
  else '\\' :: 'U' :: hexDigits 8 n

/-- A text between double quotes, escaped. -/
def quote (s : String) : String :=
  String.ofList ('"' :: (s.toList.flatMap quoteChar ++ ['"']))

end Admission.Text
