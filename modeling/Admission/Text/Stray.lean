/-!
# Texts that hold stray bytes

Some texts are byte strings rather than UTF-8: data decoded from base64, or a path segment whose
escapes spell bytes. Such bytes are read greedily as UTF-8 characters, and each byte that does
not begin a well-formed character (RFC 3629 §4) is a stray byte. A stray byte is always one of
`0x80` to `0xFF`, and it is kept as a character of its own, `strayChar b`: the bytes map onto the
last 128 code points, U+10FF80 to U+10FFFF, private-use code points that the program's inputs do
not carry. So a text keeps its bytes exactly:

* two texts are the same bytes exactly when they are the same characters;
* `toBytes` gives the bytes back;
* `isWellFormed` tells a text without stray bytes, as a UTF-8 check of its bytes would;
* `scrub` writes each stray byte as U+FFFD, as a writer that must produce UTF-8 does.

Each byte of a broken sequence is stray on its own: `E2 82` is two stray bytes, and so is the
encoded surrogate `ED A0 80` three.
-/

namespace Admission.Text.Stray

/-- Whether a byte may continue a UTF-8 character: `UTF8-tail = %x80-BF`. -/
def isTail (b : UInt8) : Bool := 0x80 ≤ b && b ≤ 0xBF

/-- The character a UTF-8 sequence encodes from its lead byte's payload and its tails. -/
def assemble (lead : Nat) (tails : List UInt8) : Char :=
  Char.ofNat (tails.foldl (fun acc t => acc * 64 + (t.toNat - 0x80)) lead)

/-- The well-formed UTF-8 character at the front of a byte list, with its length in bytes;
none when the first byte does not begin one. -/
def frontChar : List UInt8 → Option (Char × Nat)
  | [] => none
  | a :: rest =>
    if a ≤ 0x7F then some (Char.ofNat a.toNat, 1)
    else if 0xC2 ≤ a && a ≤ 0xDF then
      match rest with
      | b :: _ => if isTail b then some (assemble (a.toNat - 0xC0) [b], 2) else none
      | [] => none
    else if 0xE0 ≤ a && a ≤ 0xEF then
      -- after E0 the next byte is at least A0 (no overlong form), after ED at most 9F (no
      -- surrogate)
      let low : UInt8 := if a = 0xE0 then 0xA0 else 0x80
      let high : UInt8 := if a = 0xED then 0x9F else 0xBF
      match rest with
      | b :: c :: _ =>
        if low ≤ b && b ≤ high && isTail c then some (assemble (a.toNat - 0xE0) [b, c], 3)
        else none
      | _ => none
    else if 0xF0 ≤ a && a ≤ 0xF4 then
      -- after F0 the next byte is at least 90, after F4 at most 8F (nothing past U+10FFFF)
      let low : UInt8 := if a = 0xF0 then 0x90 else 0x80
      let high : UInt8 := if a = 0xF4 then 0x8F else 0xBF
      match rest with
      | b :: c :: d :: _ =>
        if low ≤ b && b ≤ high && isTail c && isTail d then
          some (assemble (a.toNat - 0xF0) [b, c, d], 4)
        else none
      | _ => none
    else none

/-- The character that keeps a stray byte. -/
def strayChar (b : UInt8) : Char := Char.ofNat (0x10FF00 + b.toNat)

/-- The stray byte a character keeps, if it keeps one. -/
def strayByte? (c : Char) : Option UInt8 :=
  if 0x10FF80 ≤ c.toNat then some (UInt8.ofNat (c.toNat - 0x10FF00)) else none

/-- Whether a character keeps a stray byte. -/
def isStray (c : Char) : Bool := (strayByte? c).isSome

/-- Reads bytes into characters, each byte that begins no character kept as a stray byte; the
number bounds the characters read. -/
def decode : Nat → List UInt8 → List Char
  | 0, _ => []
  | _, [] => []
  | fuel + 1, b :: bs =>
    match frontChar (b :: bs) with
    | some (c, width) => c :: decode fuel ((b :: bs).drop width)
    | none => strayChar b :: decode fuel bs

/-- The text of a byte string. -/
def ofBytes (bytes : List UInt8) : String :=
  String.ofList (decode (bytes.length + 1) bytes)

/-- The bytes of one character: its stray byte, or its UTF-8 encoding. -/
def charBytes (c : Char) : List UInt8 :=
  match strayByte? c with
  | some b => [b]
  | none => (String.singleton c).toUTF8.toList

/-- The bytes of a text. -/
def toBytes (s : String) : List UInt8 := s.toList.flatMap charBytes

/-- Whether a text is well-formed UTF-8: it keeps no stray byte. -/
def isWellFormed (s : String) : Bool := !s.any isStray

/-- A text with each stray byte written as the replacement character U+FFFD. -/
def scrub (s : String) : String := s.map fun c => if isStray c then '�' else c

end Admission.Text.Stray
