import Admission.Json.Value

/-!
# Reading JSON text

The grammar of RFC 8259: blanks are space, tab, line feed and carriage return; a number is
`-?(0|[1-9][0-9]*)(.[0-9]+)?([eE][+-]?[0-9]+)?`; a string holds no raw control character, and
its escapes are `\" \\ \/ \b \f \n \r \t \uXXXX`. A `\u` escape of a UTF-16 surrogate that does
not pair with the next escape reads as U+FFFD, the replacement character.

Arrays and objects nest at most `maxNesting` deep; a text nested deeper does not read, even
where the deepest collection is empty.

`Json.parse` takes a whole text, blanks around the value allowed; `Json.parseFirst` takes the
first value of a text and ignores what follows it, as a stream reader does.
-/

namespace Admission.Json

/-- The four blank characters of the grammar. -/
def isBlank (c : Char) : Bool := c == ' ' || c == '\t' || c == '\n' || c == '\r'

/-- The text without its leading blanks. -/
def skipBlank : List Char → List Char
  | c :: r => if isBlank c then skipBlank r else c :: r
  | [] => []

/-- The value of one hexadecimal digit. -/
def hexDigit? (c : Char) : Option Nat :=
  if '0' ≤ c ∧ c ≤ '9' then some (c.toNat - '0'.toNat)
  else if 'a' ≤ c ∧ c ≤ 'f' then some (c.toNat - 'a'.toNat + 10)
  else if 'A' ≤ c ∧ c ≤ 'F' then some (c.toNat - 'A'.toNat + 10)
  else none

/-- The value of four hexadecimal digits. -/
def hex4? (a b c d : Char) : Option Nat := do
  let x ← hexDigit? a
  let y ← hexDigit? b
  let z ← hexDigit? c
  let w ← hexDigit? d
  pure (((x * 16 + y) * 16 + z) * 16 + w)

/-- Whether a UTF-16 unit is a leading surrogate. -/
def isHighSurrogate (u : Nat) : Bool := 0xD800 ≤ u && u < 0xDC00

/-- Whether a UTF-16 unit is a trailing surrogate. -/
def isLowSurrogate (u : Nat) : Bool := 0xDC00 ≤ u && u < 0xE000

/-- The character of a code point, U+FFFD for a surrogate or a value past U+10FFFF. -/
def charOfCode (u : Nat) : Char :=
  if 0xD800 ≤ u ∧ u < 0xE000 then '�'
  else if u < 0x110000 then Char.ofNat u else '�'

/-- The code units of a string body after its opening quote, in reverse, and the text after the
closing quote. A character stands for itself; a `\u` escape gives its UTF-16 unit, which
`pairUnits` later joins with a partner. -/
def scanString (acc : List Nat) : List Char → Option (List Nat × List Char)
  | '"' :: r => some (acc, r)
  | '\\' :: '"' :: r => scanString ('"'.toNat :: acc) r
  | '\\' :: '\\' :: r => scanString ('\\'.toNat :: acc) r
  | '\\' :: '/' :: r => scanString ('/'.toNat :: acc) r
  | '\\' :: 'b' :: r => scanString (8 :: acc) r
  | '\\' :: 'f' :: r => scanString (12 :: acc) r
  | '\\' :: 'n' :: r => scanString (10 :: acc) r
  | '\\' :: 'r' :: r => scanString (13 :: acc) r
  | '\\' :: 't' :: r => scanString (9 :: acc) r
  | '\\' :: 'u' :: a :: b :: c :: d :: r =>
    match hex4? a b c d with
    | some u => scanString (u :: acc) r
    | none => none
  | '\\' :: _ => none
  | c :: r => if c.toNat < 0x20 then none else scanString (c.toNat :: acc) r
  | [] => none

/-- Code units as characters: a leading surrogate directly followed by a trailing one is one
character, and any other surrogate is U+FFFD. -/
def pairUnits : List Nat → List Char
  | u :: rest@(v :: r) =>
    if isHighSurrogate u && isLowSurrogate v then
      Char.ofNat (0x10000 + (u - 0xD800) * 0x400 + (v - 0xDC00)) :: pairUnits r
    else charOfCode u :: pairUnits rest
  | [u] => [charOfCode u]
  | [] => []

/-- A string body after its opening quote, and the text after the closing quote. -/
def scanText (cs : List Char) : Option (String × List Char) :=
  (scanString [] cs).map fun (us, rest) => (String.ofList (pairUnits us.reverse), rest)

/-- A run of decimal digits and the text after it. -/
def scanDigits : List Char → List Char × List Char
  | c :: r =>
    if c.isDigit then
      let (ds, rest) := scanDigits r
      (c :: ds, rest)
    else ([], c :: r)
  | [] => ([], [])

/-- A run of at least one decimal digit. -/
def scanDigits1 (cs : List Char) : Option (List Char × List Char) :=
  match scanDigits cs with
  | ([], _) => none
  | r => some r

/-- The integer part of a number: `0`, or digits that do not start with `0`. -/
def scanIntPart : List Char → Option (List Char × List Char)
  | '0' :: r => some (['0'], r)
  | cs => scanDigits1 cs

/-- A fraction `.digits`, or nothing. -/
def scanFraction : List Char → Option (List Char × List Char)
  | '.' :: r => (scanDigits1 r).map fun (ds, rest) => ('.' :: ds, rest)
  | cs => some ([], cs)

/-- An exponent `e±digits`, or nothing. -/
def scanExponent : List Char → Option (List Char × List Char)
  | e :: r =>
    if e == 'e' || e == 'E' then
      match r with
      | '+' :: r' => (scanDigits1 r').map fun (ds, rest) => (e :: '+' :: ds, rest)
      | '-' :: r' => (scanDigits1 r').map fun (ds, rest) => (e :: '-' :: ds, rest)
      | r' => (scanDigits1 r').map fun (ds, rest) => (e :: ds, rest)
    else some ([], e :: r)
  | [] => some ([], [])

/-- A number literal and the text after it. -/
def scanNumber (cs : List Char) : Option (List Char × List Char) := do
  let (sign, r0) := match cs with
    | '-' :: r => (['-'], r)
    | r => ([], r)
  let (i, r1) ← scanIntPart r0
  let (f, r2) ← scanFraction r1
  let (e, r3) ← scanExponent r2
  pure (sign ++ i ++ f ++ e, r3)

/-- The items of an array after its `[`, each read by `value`, and the text after its `]`. -/
def scanItems (value : List Char → Option (Json × List Char)) :
    Nat → List Json → List Char → Option (List Json × List Char)
  | 0, _, _ => none
  | n + 1, acc, cs => do
    let (v, r) ← value cs
    match skipBlank r with
    | ',' :: r' => scanItems value n (v :: acc) r'
    | ']' :: r' => pure ((v :: acc).reverse, r')
    | _ => none

/-- The members of an object after its `{`, each value read by `value`, and the text after
its `}`. -/
def scanMembers (value : List Char → Option (Json × List Char)) :
    Nat → List (String × Json) → List Char → Option (List (String × Json) × List Char)
  | 0, _, _ => none
  | n + 1, acc, cs => do
    let (k, r) ← match skipBlank cs with
      | '"' :: r => scanText r
      | _ => none
    let r ← match skipBlank r with
      | ':' :: r' => some r'
      | _ => none
    let (v, r) ← value r
    match skipBlank r with
    | ',' :: r' => scanMembers value n ((k, v) :: acc) r'
    | '}' :: r' => pure (((k, v) :: acc).reverse, r')
    | _ => none

/-- The deepest nesting of arrays and objects a text may have. -/
def maxNesting : Nat := 10000

/-- One value after optional blanks, and the text after it; `depth` is how many more arrays
or objects may open, this value's own included, and `width` bounds the items of each (the
length of the whole text does). -/
def scanValue : Nat → Nat → List Char → Option (Json × List Char)
  | depth, width, cs =>
    match skipBlank cs with
    | '{' :: r =>
      match depth with
      | 0 => none
      | d + 1 =>
        match skipBlank r with
        | '}' :: r' => some (.object [], r')
        | r' =>
          (scanMembers (scanValue d width) width [] r').map fun (ms, rest) => (.object ms, rest)
    | '[' :: r =>
      match depth with
      | 0 => none
      | d + 1 =>
        match skipBlank r with
        | ']' :: r' => some (.array [], r')
        | r' =>
          (scanItems (scanValue d width) width [] r').map fun (xs, rest) => (.array xs, rest)
    | '"' :: r => (scanText r).map fun (s, rest) => (.string s, rest)
    | 't' :: 'r' :: 'u' :: 'e' :: r => some (.bool true, r)
    | 'f' :: 'a' :: 'l' :: 's' :: 'e' :: r => some (.bool false, r)
    | 'n' :: 'u' :: 'l' :: 'l' :: r => some (.null, r)
    | r => (scanNumber r).map fun (lit, rest) => (.number (String.ofList lit), rest)

/-- The first value of a text, and the text after it. -/
def parsePrefix (s : String) : Option (Json × List Char) :=
  scanValue maxNesting (s.length + 1) s.toList

/-- The value a whole text holds, blanks around it allowed. -/
def parse (s : String) : Option Json :=
  match parsePrefix s with
  | some (v, rest) => if skipBlank rest = [] then some v else none
  | none => none

/-- The first value of a text; what follows it is not read. -/
def parseFirst (s : String) : Option Json :=
  (parsePrefix s).map Prod.fst

end Admission.Json
