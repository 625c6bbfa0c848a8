/-!
# Characters of a YAML text

The reader hands the scanner the characters of a text, and checks each one as it does:
only tab, line feed, carriage return, the printable ASCII range, NEL (`U+0085`) and the
Unicode ranges `U+00A0..U+D7FF`, `U+E000..U+FFFD` and `U+10000..U+10FFFF` may appear. A byte
order mark at the very start is dropped.

The reader takes the encoded text in blocks of 512 bytes and decodes (and checks) every whole
character of a block at once, as soon as the scanner needs a character it has not decoded
yet. A character cut by the end of a block is left for the next block, which starts with
it. A bad character therefore fails the text as soon as the scanner reaches its block, even
if the scanner never looks at the character itself, and is never noticed when the scanner
stops before its block.

Line breaks are line feed, carriage return (alone or before a line feed), NEL, and the line
and paragraph separators `U+2028` and `U+2029`; blanks are space and tab. The scanner reads a
NUL character past the end of the text.
-/

namespace Admission.Yaml

/-- Whether a character is a space or a tab. -/
def isBlank (c : Char) : Bool := c = ' ' || c = '\t'

/-- Whether a character breaks a line. -/
def isBreak (c : Char) : Bool :=
  c = '\r' || c = '\n' || c.toNat = 0x85 || c.toNat = 0x2028 || c.toNat = 0x2029

/-- Whether a character is the NUL that stands past the end of the text. -/
def isNul (c : Char) : Bool := c.toNat = 0

/-- Whether a character breaks a line or ends the text. -/
def isBreakNul (c : Char) : Bool := isBreak c || isNul c

/-- Whether a character is blank, breaks a line or ends the text. -/
def isSpaceNul (c : Char) : Bool := isBlank c || isBreakNul c

/-- Whether a character may appear in a name: an ASCII letter or digit, `_` or `-`. -/
def isWordChar (c : Char) : Bool := c.isAlphanum || c = '_' || c = '-'

/-- The value of a hexadecimal digit. -/
def hexDigit (c : Char) : Option Nat :=
  if c.isDigit then some (c.toNat - '0'.toNat)
  else if 'a' ≤ c && c ≤ 'f' then some (c.toNat - 'a'.toNat + 10)
  else if 'A' ≤ c && c ≤ 'F' then some (c.toNat - 'A'.toNat + 10)
  else none

/-- Whether a character is the byte order mark. -/
def isByteOrderMark (c : Char) : Bool := c.toNat = 0xFEFF

/-- Whether a character may appear in a YAML text. -/
def allowed (c : Char) : Bool :=
  let n := c.toNat
  n = 0x09 || n = 0x0A || n = 0x0D || (0x20 ≤ n && n ≤ 0x7E) || n = 0x85 ||
    (0xA0 ≤ n && n ≤ 0xD7FF) || (0xE000 ≤ n && n ≤ 0xFFFD) || 0x10000 ≤ n

/-- The size of a block of input. -/
def blockSize : Nat := 512

/-- Whether every character the reader decodes is allowed, when the scanner still asks for
`demand` characters: `offset` is the byte offset of `cs` in the text, and `blockEnd` the
offset where the block read last ends. -/
def checkedThrough (demand : Nat) : Nat → Nat → List Char → Bool
  | _, _, [] => true
  | offset, blockEnd, c :: cs =>
    let stop := offset + c.utf8Size
    if stop ≤ blockEnd then allowed c && checkedThrough (demand - 1) stop blockEnd cs
    -- a character past the block read is decoded only when one is still needed, and then
    -- it starts the next block
    else if demand = 0 then true
    else allowed c && checkedThrough (demand - 1) stop (offset + blockSize) cs

/-- Whether the reader meets no bad character while the scanner asks for the first `demand`
characters of `cs`, after a byte order mark of `offset` bytes. -/
def readable (offset demand : Nat) (cs : List Char) : Bool :=
  checkedThrough demand offset blockSize cs

end Admission.Yaml
