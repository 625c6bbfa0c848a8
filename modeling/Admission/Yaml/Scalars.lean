import Admission.Yaml.Cursor

/-!
# Scanning scalars

Each scanner here starts at the first character of a scalar and adds its token.

* Quoted scalars end at the matching quote. In single quotes `''` stands for a quote. In
  double quotes a backslash starts an escape: one of `0abtnvfre "'\N_LP` and tab, or `x`, `u`
  or `U` with two, four or eight hex digits naming a code point that is not a surrogate; a
  backslash before a line break joins the lines. A document marker at the start of a line, or
  the end of the text, inside the quotes is an error.
* Plain scalars end before `: ` (a colon and a blank or break), before ` #`, at a document
  marker, and in flow context before `,?[]{}`. In block context a line indented no deeper
  than the enclosing block ends it, and a tab in that indentation is an error.
* Block scalars (`|` literal, `>` folded) take a chomping indicator (`-` strip, `+` keep)
  and an indentation digit in either order, then only a comment on their line. Their
  content is the lines indented at least as deep as the first one (or the digit's depth).

Line folding is the same in all but literal scalars: the blanks around a line break are
dropped; a single line feed (or carriage return or NEL) becomes a space, a line separator or
paragraph separator is kept as it is, and each further empty line gives a line feed.
-/

namespace Admission.Yaml

/-- Whether the text at the current place is a document marker `---` or `...` at the start of
a line followed by a blank, a break or the end. -/
def atDocumentMarker : Scan Bool := do
  let s ← get
  let c := s.ahead 0
  return s.mark.column = 0 && (c = '-' || c = '.') && s.ahead 1 = c && s.ahead 2 = c &&
    isSpaceNul (s.ahead 3)

/-- The text that joins two pieces of a scalar across line breaks: `leading` is the first
break, `trailing` the breaks of the empty lines after it. -/
def fold (leading trailing : String) : String :=
  if leading.startsWith "\n" then (if trailing.isEmpty then " " else trailing)
  else leading ++ trailing

/-- The one-letter escapes of double-quoted scalars: the text each stands for, or the number
of hex digits that follow it. -/
def escapeOf (c : Char) : Option (Sum Char Nat) :=
  match c with
  | '0' => some (.inl (Char.ofNat 0))
  | 'a' => some (.inl (Char.ofNat 7))
  | 'b' => some (.inl (Char.ofNat 8))
  | 't' => some (.inl '\t')
  | '\t' => some (.inl '\t')
  | 'n' => some (.inl '\n')
  | 'v' => some (.inl (Char.ofNat 11))
  | 'f' => some (.inl (Char.ofNat 12))
  | 'r' => some (.inl '\r')
  | 'e' => some (.inl (Char.ofNat 27))
  | ' ' => some (.inl ' ')
  | '"' => some (.inl '"')
  | '\'' => some (.inl '\'')
  | '\\' => some (.inl '\\')
  | 'N' => some (.inl (Char.ofNat 0x85))
  | '_' => some (.inl (Char.ofNat 0xA0))
  | 'L' => some (.inl (Char.ofNat 0x2028))
  | 'P' => some (.inl (Char.ofNat 0x2029))
  | 'x' => some (.inr 2)
  | 'u' => some (.inr 4)
  | 'U' => some (.inr 8)
  | _ => none

/-- The value of `n` hex digits at the current place, in a scalar starting at `start`. -/
def hexAhead (start : Mark) : Nat → Nat → Scan Nat
  | 0, acc => pure acc
  | n + 1, acc => do
    match hexDigit (← peekAt 0) with
    | none => scanError start "did not find expected hexdecimal number"
    | some d =>
      skip
      hexAhead start n (acc * 16 + d)

/-- Reads an escape after its backslash has been passed, in a scalar starting at `start`;
gives the character. -/
def readEscape (start : Mark) : Scan Char := do
  match escapeOf (← current) with
  | none => scanError start "found unknown escape character"
  | some (.inl c) =>
    skip
    return c
  | some (.inr width) =>
    skip
    need width
    -- the digits are all checked before any is taken
    let s ← get
    let digits := (List.range width).map s.ahead
    if digits.any fun d => (hexDigit d).isNone then
      scanError start "did not find expected hexdecimal number"
    let v ← hexAhead start width 0
    if (0xD800 ≤ v && v ≤ 0xDFFF) || 0x10FFFF < v then
      scanError start "found invalid Unicode character escape code"
    return Char.ofNat v

/-- Reads the characters of a quoted scalar starting at `start` up to a blank, a break, the
end or the closing quote: the text so far, and whether an escaped line break was met. -/
def quotedRun (single : Bool) (start : Mark) : Nat → String → Scan (String × Bool)
  | 0, _ => scanErrorHere "scanner ran out of fuel"
  | fuel + 1, acc => do
    let c ← current
    if isSpaceNul c then return (acc, false)
    let c1 ← peekAt 1
    if single && c = '\'' && c1 = '\'' then
      skip
      skip
      need 2
      quotedRun single start fuel (acc.push '\'')
    else if single && c = '\'' then return (acc, false)
    else if !single && c = '"' then return (acc, false)
    else if !single && c = '\\' && isBreak c1 then
      need 3
      skip
      skipLine
      return (acc, true)
    else if !single && c = '\\' then
      skip
      let e ← readEscape start
      need 2
      quotedRun single start fuel (acc.push e)
    else
      let c ← readChar
      need 2
      quotedRun single start fuel (acc.push c)

/-- Reads the blanks and line breaks inside a quoted or plain scalar starting at `start`: the
blanks kept when no break comes, the first break, the breaks after it, and whether a break
was met (`broken` tells whether one already was). -/
def blankRun (plainIndent : Option Int) (start : Mark) :
    Nat → String → String → String → Bool → Scan (String × String × String × Bool)
  | 0, _, _, _, _ => scanErrorHere "scanner ran out of fuel"
  | fuel + 1, spaces, leading, trailing, broken => do
    let c ← current
    if isBlank c then
      if let some indent := plainIndent then
        let s ← get
        if broken && (s.mark.column : Int) < indent && c = '\t' then
          scanError start "found a tab character that violates indentation"
      if broken then
        skip
        need 1
        blankRun plainIndent start fuel spaces leading trailing broken
      else
        let c ← readChar
        need 1
        blankRun plainIndent start fuel (spaces.push c) leading trailing broken
    else if isBreak c then
      need 2
      if broken then
        let b ← readLine
        need 1
        blankRun plainIndent start fuel spaces leading (trailing ++ b) broken
      else
        let b ← readLine
        need 1
        blankRun plainIndent start fuel "" (leading ++ b) trailing true
    else return (spaces, leading, trailing, broken)

/-- Reads the rest of a quoted scalar starting at `start`, piece by piece. -/
def quotedPieces (single : Bool) (start : Mark) : Nat → String → Scan String
  | 0, _ => scanErrorHere "scanner ran out of fuel"
  | fuel + 1, acc => do
    need 4
    if ← atDocumentMarker then
      scanError start "found unexpected document indicator"
    if isNul (← current) then
      scanError start "found unexpected end of stream"
    let (acc, escapedBreak) ← quotedRun single start fuel acc
    need 1
    let c ← current
    if (single && c = '\'') || (!single && c = '"') then return acc
    let (spaces, leading, trailing, broken) ← blankRun none start fuel "" "" "" escapedBreak
    let acc := if broken then acc ++ fold leading trailing else acc ++ spaces
    quotedPieces single start fuel acc

/-- Scans a quoted scalar. -/
def scanQuoted (single : Bool) : Scan Unit := do
  let s ← get
  skip
  let text ← quotedPieces single s.mark s.fuel ""
  skip
  addToken (.scalar text (if single then .single else .double)) s.mark

/-- Whether a character ends the characters of a plain scalar: a colon before a blank, a
break or the end, and in flow context one of `,?[]{}`. -/
def endsPlain (flow : Bool) (c next : Char) : Bool :=
  (c = ':' && isSpaceNul next) ||
    (flow && (c = ',' || c = '?' || c = '[' || c = ']' || c = '{' || c = '}'))

/-- What a plain scalar has gathered: its text, the blanks after it, the first line break
after it and the breaks that follow, and whether a break was met. -/
structure PlainParts where
  /-- The text so far. -/
  text : String
  /-- The blanks after the text, on its line. -/
  spaces : String
  /-- The first line break after the text. -/
  leading : String
  /-- The line breaks of empty lines after it. -/
  trailing : String
  /-- Whether a line break was met since the text. -/
  broken : Bool

/-- Reads the characters of one line of a plain scalar, joining them to what came before. -/
def plainRun (flow : Bool) : Nat → PlainParts → Scan PlainParts
  | 0, _ => scanErrorHere "scanner ran out of fuel"
  | fuel + 1, p => do
    let c ← current
    if isSpaceNul c then return p
    if endsPlain flow c (← peekAt 1) then return p
    let text := if p.broken then p.text ++ fold p.leading p.trailing
      else p.text ++ p.spaces
    let ch ← readChar
    need 2
    plainRun flow fuel ⟨text.push ch, "", "", "", false⟩

/-- Reads the pieces of a plain scalar starting at `start` whose lines must be indented at
least `indent`. -/
def plainPieces (indent : Int) (start : Mark) : Nat → PlainParts → Scan PlainParts
  | 0, _ => scanErrorHere "scanner ran out of fuel"
  | fuel + 1, p => do
    need 4
    if ← atDocumentMarker then return p
    if (← current) = '#' then return p
    let flow := (← get).flowLevel > 0
    let p ← plainRun flow fuel p
    let c ← current
    if !(isBlank c || isBreak c) then return p
    need 1
    let (spaces, leading, trailing, broken) ←
      blankRun (some indent) start fuel p.spaces p.leading p.trailing p.broken
    let p := { p with spaces, leading, trailing, broken }
    let s ← get
    if s.flowLevel = 0 && (s.mark.column : Int) < indent then return p
    plainPieces indent start fuel p

/-- Scans a plain scalar. After one that ran over a line break a key may start. -/
def scanPlain : Scan Unit := do
  let s ← get
  let p ← plainPieces (s.indent + 1) s.mark s.fuel ⟨"", "", "", "", false⟩
  addToken (.scalar p.text .plain) s.mark
  if p.broken then modify fun s => { s with keyAllowed := true }

/-- Skips the spaces of a block scalar's indentation, up to column `indent` when it is
known. -/
def indentSpaces (indent : Nat) : Nat → Scan Unit
  | 0 => pure ()
  | fuel + 1 => do
    let s ← get
    if (indent = 0 || s.mark.column < indent) && s.ahead 0 = ' ' then
      skip
      need 1
      indentSpaces indent fuel

/-- Skips the indentation and empty lines before a line of a block scalar starting at
`start`: the line breaks met, and the indentation, settled from the deepest empty line when
it was not known. -/
def blockBreaks (start : Mark) : Nat → Nat → Nat → String → Scan (Nat × String)
  | 0, _, _, _ => scanErrorHere "scanner ran out of fuel"
  | fuel + 1, indent, deepest, breaks => do
    need 1
    indentSpaces indent fuel
    let s ← get
    let deepest := max deepest s.mark.column
    if (indent = 0 || s.mark.column < indent) && s.ahead 0 = '\t' then
      scanError start "found a tab character where an indentation space is expected"
    if !isBreak (s.ahead 0) then
      if indent = 0 then
        let settled := max (max deepest (s.indent + 1).toNat) 1
        return (settled, breaks)
      return (indent, breaks)
    need 2
    let b ← readLine
    blockBreaks start fuel indent deepest (breaks ++ b)

/-- The header of a block scalar starting at `start`, after `|` or `>`: the chomping (`-1`
strip, `0` clip, `1` keep) and the indentation digit (0 when none). -/
def blockHeader (start : Mark) : Scan (Int × Nat) := do
  need 1
  let c ← current
  let digitOf (d : Char) : Nat := d.toNat - '0'.toNat
  if c = '+' || c = '-' then
    skip
    need 1
    let d ← current
    if d.isDigit then
      if d = '0' then
        scanError start "found an indentation indicator equal to 0"
      skip
      return (if c = '+' then 1 else -1, digitOf d)
    return (if c = '+' then 1 else -1, 0)
  else if c.isDigit then
    if c = '0' then
      scanError start "found an indentation indicator equal to 0"
    skip
    need 1
    let e ← current
    if e = '+' || e = '-' then
      skip
      return (if e = '+' then 1 else -1, digitOf c)
    return (0, digitOf c)
  else return (0, 0)

/-- Reads the rest of a line of a block scalar. -/
def lineText : Nat → String → Scan String
  | 0, acc => pure acc
  | fuel + 1, acc => do
    need 1
    let c ← current
    if isBreakNul c then return acc
    skip
    lineText fuel (acc.push c)

/-- Reads the lines of a block scalar starting at `start`, at indentation `indent`, joining
them: `leading` is the break after the previous line, `trailing` the breaks of the empty
lines since, and `blankStart` whether the previous line started with a blank. -/
def blockLines (literal : Bool) (start : Mark) (indent : Nat) :
    Nat → String → String → String → Bool → Scan (String × String × String)
  | 0, _, _, _, _ => scanErrorHere "scanner ran out of fuel"
  | fuel + 1, acc, leading, trailing, blankStart => do
    let s ← get
    if s.mark.column ≠ indent || isNul (s.ahead 0) then return (acc, leading, trailing)
    let startsBlank := isBlank (s.ahead 0)
    let acc := if !literal && !blankStart && !startsBlank && leading.startsWith "\n" then
        (if trailing.isEmpty then acc.push ' ' else acc)
      else acc ++ leading
    let acc := acc ++ trailing
    let acc ← lineText fuel acc
    need 2
    let leading ← readLine
    let (indent', trailing) ← blockBreaks start fuel indent 0 ""
    if indent' ≠ indent then return (acc, leading, trailing)
    blockLines literal start indent fuel acc leading trailing startsBlank

/-- Scans a block scalar, literal or folded. -/
def scanBlockScalar (literal : Bool) : Scan Unit := do
  let start ← get
  skip
  let (chomp, digit) ← blockHeader start.mark
  skipBlanks start.fuel
  if (← current) = '#' then skipToBreak start.fuel
  if !isBreakNul (← current) then
    scanError start.mark "did not find expected comment or line break"
  if isBreak (← current) then
    need 2
    skipLine
  let s ← get
  let indent : Nat := if digit > 0 then
      (if s.indent ≥ 0 then (s.indent + digit).toNat else digit)
    else 0
  let (indent, trailing) ← blockBreaks start.mark s.fuel indent 0 ""
  need 1
  let (text, leading, trailing) ←
    blockLines literal start.mark indent s.fuel "" "" trailing false
  let text := if chomp ≠ -1 then text ++ leading else text
  let text := if chomp = 1 then text ++ trailing else text
  addToken (.scalar text (if literal then .literal else .folded)) start.mark

end Admission.Yaml
