import Admission.Yaml.Scalars
import Admission.Yaml.Properties

/-!
# The token stream

`fetchNextToken` reads the next token at the current place, after the blanks, line breaks
and comments before it:

* the start of the text comes first, and the end of the text when the characters run out;
* at the start of a line, `%` starts a directive, and `---` or `...` followed by a blank is a
  document marker; both close every open block collection;
* `[`, `{`, `]`, `}` and `,` are flow indicators; `-`, `?` and `:` followed by a blank (in
  flow context `?` and `:` always) are the entry, key and value indicators;
* `*`, `&` and `!` start an alias, an anchor and a tag; `|` and `>` (in block context) a
  block scalar; quotes a quoted scalar; anything else that may start a plain scalar does.

Block collections are opened and closed by indentation: a line starting left of the current
indentation closes the collections deeper than it (`blockEnd`), and an entry, a key or a value
to the right of it opens a new one. Tabs are blanks only inside flow collections and where no
key may start; at the start of a line in block context a tab cannot start a token.

Comments run to the end of their line. After a token, a comment on the same line is passed
over with any blanks (tabs too) before it, and a run of comment lines is passed over as one,
with the blank lines and indentation between them.

The parser takes tokens from the front of the queue (`peekToken`, `takeToken`). Before it
looks at a token the scanner reads ahead until the queue holds three tokens, and further while
the front token may still turn out to start a key.
-/

namespace Admission.Yaml

/-- The most characters the scanner looks ahead over when passing comments. -/
def commentLookahead : Nat := 512

/-- Passes over the rest of a comment line: the blanks and breaks up to `seen`, then the
characters up to the line break. -/
def passComment (seen : Nat) : Nat → Scan Unit
  | 0 => pure ()
  | fuel + 1 => do
    need 1
    let s ← get
    if isBreakNul (s.ahead 0) then
      if s.mark.index ≥ seen || isNul (s.ahead 0) then return
      need 2
      skipLine
      passComment seen fuel
    else
      skip
      passComment seen fuel

/-- Passes over a run of comment lines starting at a `#`: looking ahead past blanks and line
breaks, every further line that holds only a comment is passed over too. -/
def passComments : Nat → Nat → Scan Unit
  | 0, _ => pure ()
  | fuel + 1, peek => do
    if peek ≥ commentLookahead then return
    need (peek + 1)
    let s ← get
    let c := s.ahead peek
    if isBlank c then passComments fuel (peek + 1)
    else if (s.flowLevel > 0 && (c = ']' || c = '}')) || isBreakNul c then
      if isBreak c then passComments fuel (peek + 1) else return
    else if c ≠ '#' then return
    else
      passComment (s.mark.index + peek) s.fuel
      passComments fuel 0

/-- Looks ahead past blanks for a comment on the line of the token just read, and passes
over it with the blanks before it. -/
def lineComment : Nat → Nat → Scan Unit
  | 0, _ => pure ()
  | fuel + 1, peek => do
    if peek ≥ commentLookahead then return
    need (peek + 1)
    let s ← get
    let c := s.ahead peek
    if isBlank c then lineComment fuel (peek + 1)
    else if c = '#' then passComment (s.mark.index + peek) s.fuel

/-- Passes over a comment on the line of the token just read, with the blanks before it. -/
def passLineComment : Scan Unit := do
  if (← get).newlines > 0 then return
  lineComment commentLookahead 0

/-- Passes over spaces, and tabs where they are blanks: in flow context, or where no key may
start. -/
def skipSeparation : Nat → Scan Unit
  | 0 => pure ()
  | fuel + 1 => do
    let s ← get
    let c := s.ahead 0
    if c = ' ' || ((s.flowLevel > 0 || !s.keyAllowed) && c = '\t') then
      skip
      need 1
      skipSeparation fuel

/-- Passes over blanks, comments and line breaks up to the next token. In block context a
line break lets a key start. -/
def toNextToken : Nat → Scan Unit
  | 0 => pure ()
  | fuel + 1 => do
    need 1
    let s ← get
    if s.mark.column = 0 && isByteOrderMark (s.ahead 0) then skip
    need 1
    skipSeparation s.fuel
    if (← current) = '#' then passComments s.fuel 0
    if isBreak (← current) then
      need 2
      skipLine
      modify fun s => if s.flowLevel = 0 then { s with keyAllowed := true } else s
      toNextToken fuel

/-- The start of the text. -/
def fetchStreamStart : Scan Unit := do
  let unused : SimpleKey := ⟨false, false, 0, ⟨0, 0, 0⟩⟩
  modify fun s => { s with indent := -1, keys := #[unused], keyAllowed := true, started := true }
  addToken .streamStart (← get).mark

/-- The end of the text: every block collection is closed. -/
def fetchStreamEnd : Scan Unit := do
  modify fun s =>
    if s.mark.column ≠ 0 then { s with mark := { s.mark with column := 0, line := s.mark.line + 1 } }
    else s
  unrollIndent (-1)
  removeKey
  modify fun s => { s with keyAllowed := false }
  addToken .streamEnd (← get).mark

/-- A directive. -/
def fetchDirective : Scan Unit := do
  unrollIndent (-1)
  removeKey
  modify fun s => { s with keyAllowed := false }
  scanDirective

/-- A document marker. -/
def fetchDocumentMarker (t : Token) : Scan Unit := do
  unrollIndent (-1)
  removeKey
  modify fun s => { s with keyAllowed := false }
  let start := (← get).mark
  skip
  skip
  skip
  addToken t start

/-- `[` or `{`: it may start a key, and a key may follow it. -/
def fetchFlowStart (t : Token) : Scan Unit := do
  saveKey
  enterFlow
  modify fun s => { s with keyAllowed := true }
  let start := (← get).mark
  skip
  addToken t start

/-- `]` or `}`. -/
def fetchFlowEnd (t : Token) : Scan Unit := do
  removeKey
  leaveFlow
  modify fun s => { s with keyAllowed := false }
  let start := (← get).mark
  skip
  addToken t start

/-- `,`: a key may follow it. -/
def fetchFlowEntry : Scan Unit := do
  removeKey
  modify fun s => { s with keyAllowed := true }
  let start := (← get).mark
  skip
  addToken .flowEntry start

/-- `-` followed by a blank: in block context it may open a block sequence. -/
def fetchBlockEntry : Scan Unit := do
  let s ← get
  if s.flowLevel = 0 then
    if !s.keyAllowed then
      scanErrorHere "block sequence entries are not allowed in this context"
    rollIndent s.mark.column none .blockSequenceStart s.mark
  removeKey
  modify fun s => { s with keyAllowed := true }
  skip
  addToken .blockEntry s.mark

/-- `?`: in block context it may open a block mapping. -/
def fetchKey : Scan Unit := do
  let s ← get
  if s.flowLevel = 0 then
    if !s.keyAllowed then scanErrorHere "mapping keys are not allowed in this context"
    rollIndent s.mark.column none .blockMappingStart s.mark
  removeKey
  modify fun s => { s with keyAllowed := s.flowLevel = 0 }
  skip
  addToken .key s.mark

/-- `:`: when a key without `?` may have started before it, the key token goes back there
(opening a block mapping at its column if needed); otherwise it is the value of a key given
with `?`, or of an empty key. -/
def fetchValue : Scan Unit := do
  let s ← get
  let level := s.keys.size - 1
  if ← keyStillPossible level then
    let s ← get
    let k := s.topKey
    insertToken (k.tokenNumber - s.taken) .key k.mark
    rollIndent k.mark.column (some k.tokenNumber) .blockMappingStart k.mark
    modify fun s =>
      { (s.setKey level { k with possible := false }).forgetToken k.tokenNumber with
        keyAllowed := false }
  else
    let s ← get
    if s.flowLevel = 0 then
      if !s.keyAllowed then scanErrorHere "mapping values are not allowed in this context"
      rollIndent s.mark.column none .blockMappingStart s.mark
    modify fun s => { s with keyAllowed := s.flowLevel = 0 }
  let start := (← get).mark
  skip
  addToken .value start

/-- An anchor or an alias, which may start a key. -/
def fetchAnchor (isAlias : Bool) : Scan Unit := do
  saveKey
  modify fun s => { s with keyAllowed := false }
  scanAnchor isAlias

/-- A tag, which may start a key. -/
def fetchTag : Scan Unit := do
  saveKey
  modify fun s => { s with keyAllowed := false }
  scanTag

/-- A block scalar; a key may follow it. -/
def fetchBlockScalar (literal : Bool) : Scan Unit := do
  removeKey
  modify fun s => { s with keyAllowed := true }
  scanBlockScalar literal

/-- A quoted scalar, which may start a key. -/
def fetchQuoted (single : Bool) : Scan Unit := do
  saveKey
  modify fun s => { s with keyAllowed := false }
  scanQuoted single

/-- A plain scalar, which may start a key. -/
def fetchPlain : Scan Unit := do
  saveKey
  modify fun s => { s with keyAllowed := false }
  scanPlain

/-- The indicator characters, which start a plain scalar only in the cases below. -/
def indicators : List Char :=
  ['-', '?', ':', ',', '[', ']', '\x7b', '\x7d', '#', '&', '*', '!', '|', '>', '\'', '"', '%',
    '@', Char.ofNat 96]

/-- Whether a character may start a plain scalar, given the one after it: any character but
a blank, a break, the end or an indicator; `-` before anything but a blank; and in block
context `?` and `:` before anything but a blank, a break or the end. -/
def startsPlain (flow : Bool) (c next : Char) : Bool :=
  !(isSpaceNul c || indicators.contains c) ||
    (c = '-' && !isBlank next) || (!flow && (c = '?' || c = ':') && !isSpaceNul next)

/-- Reads a token that is not a document marker or directive; gives whether it was a block
entry. -/
def fetchContent (s : Scanner) : Scan Bool := do
  let c := s.ahead 0
  let next := s.ahead 1
  let flow := s.flowLevel > 0
  if c = '[' then fetchFlowStart .flowSequenceStart
  else if c = '\x7b' then fetchFlowStart .flowMappingStart
  else if c = ']' then fetchFlowEnd .flowSequenceEnd
  else if c = '\x7d' then fetchFlowEnd .flowMappingEnd
  else if c = ',' then fetchFlowEntry
  else if c = '-' && isSpaceNul next then
    fetchBlockEntry
    return true
  else if c = '?' && (flow || isSpaceNul next) then fetchKey
  else if c = ':' && (flow || isSpaceNul next) then fetchValue
  else if c = '*' then fetchAnchor true
  else if c = '&' then fetchAnchor false
  else if c = '!' then fetchTag
  else if c = '|' && !flow then fetchBlockScalar true
  else if c = '>' && !flow then fetchBlockScalar false
  else if c = '\'' then fetchQuoted true
  else if c = '"' then fetchQuoted false
  else if startsPlain flow c next then fetchPlain
  else scanErrorHere "found character that cannot start any token"
  return false

/-- Reads the next token into the queue. -/
def fetchNextToken : Scan Unit := do
  need 1
  if !(← get).started then
    fetchStreamStart
    return
  toNextToken (← get).fuel
  unrollIndent (← get).mark.column
  need 4
  let s ← get
  let c := s.ahead 0
  let lineStart := s.mark.column = 0
  if isNul c then fetchStreamEnd
  else if lineStart && c = '%' then fetchDirective
  else if lineStart && c = '-' && s.ahead 1 = '-' && s.ahead 2 = '-' && isSpaceNul (s.ahead 3) then
    fetchDocumentMarker .documentStart
  else if lineStart && c = '.' && s.ahead 1 = '.' && s.ahead 2 = '.' && isSpaceNul (s.ahead 3) then
    fetchDocumentMarker .documentEnd
  else
    let entry ← fetchContent s
    if !entry then passLineComment

/-- Reads tokens until the queue holds three, and further while its front token may still
start a key. -/
def fetchMore : Nat → Scan Unit
  | 0 => scanErrorHere "scanner ran out of fuel"
  | fuel + 1 => do
    let s ← get
    if s.queue.length > 2 then
      match s.keysByToken.lookup s.taken with
      | none => return
      | some level => if !(← keyStillPossible level) then return
    fetchNextToken
    fetchMore fuel

/-- The fuel for reading ahead: each token read moves past at least one character, and the
tokens that do not add at most two per character. -/
def Scanner.tokenFuel (s : Scanner) : Nat := 4 * s.text.size + 64

/-- The token at the front of the queue with the place where it starts, reading ahead as
needed. -/
def peekMarked : Scan (Token × Mark) := do
  let s ← get
  if !s.available then
    fetchMore s.tokenFuel
    modify fun s => { s with available := true }
  match (← get).queue with
  | t :: _ => return t
  | [] => scanErrorHere "no token"

/-- The token at the front of the queue, reading ahead as needed. -/
def peekToken : Scan Token := do
  return (← peekMarked).1

/-- Takes the token at the front of the queue. -/
def takeToken : Scan Unit :=
  modify fun s => { s with queue := s.queue.drop 1, taken := s.taken + 1, available := false }

end Admission.Yaml
