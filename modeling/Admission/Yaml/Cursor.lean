import Admission.Yaml.Reader

/-!
# The scanner's state

The scanner turns the characters of a text into tokens. Its state holds where it stands in
the text (`Mark`), the block indentations it has opened, the flow collections it is inside,
the places where an implicit key (a key written without `?`) may have started, and the
queue of tokens read but not yet taken by the parser.

A key written without `?` is only known to be a key when the `:` after it is found, so the
scanner remembers, for each flow level, the one place where such a key may start
(`SimpleKey`), and when the `:` comes it inserts the `KEY` token (and, in block context, the
start of a block mapping) back at that place in the queue. Such a place stops being a
possible key when the scanner moves past its line, or more than 1024 characters on; if the
key was required there (in block context at the indentation column) that is an error.

The primitives here move through the text one character or one line break at a time and
count the line breaks met since the last character that was not blank, which decides whether
a comment is on the same line as the token before it.

A syntax error names its problem, the place where it was found and the start of the
construct it was found in. Its message gives a line number: the construct's line when that
is not the first line, else the problem's line when that is not the first, else none. The
scanner's errors count lines from one there, the parser's from zero.
-/

namespace Admission.Yaml

/-- A position in the text: the character's index, its line and its column, from zero. -/
structure Mark where
  /-- The index of the character. -/
  index : Nat
  /-- The line. -/
  line : Nat
  /-- The column. -/
  column : Nat
  deriving Repr, Inhabited, DecidableEq

/-- How a scalar was written. -/
inductive Style where
  /-- Unquoted. -/
  | plain
  /-- Between single quotes. -/
  | single
  /-- Between double quotes. -/
  | double
  /-- A literal block scalar (`|`). -/
  | literal
  /-- A folded block scalar (`>`). -/
  | folded
  deriving Repr, Inhabited, DecidableEq

/-- A token of a YAML text. -/
inductive Token where
  /-- The start of the text. -/
  | streamStart
  /-- The end of the text. -/
  | streamEnd
  /-- A `%YAML` directive with its version. -/
  | versionDirective (major minor : Nat)
  /-- A `%TAG` directive: a handle and the text it stands for. -/
  | tagDirective (handle expansion : String)
  /-- The document start marker `---`. -/
  | documentStart
  /-- The document end marker `...`. -/
  | documentEnd
  /-- The start of a block sequence. -/
  | blockSequenceStart
  /-- The start of a block mapping. -/
  | blockMappingStart
  /-- The end of a block collection. -/
  | blockEnd
  /-- `[` -/
  | flowSequenceStart
  /-- `]` -/
  | flowSequenceEnd
  /-- `{` -/
  | flowMappingStart
  /-- `}` -/
  | flowMappingEnd
  /-- A block sequence entry `-`. -/
  | blockEntry
  /-- A flow collection entry separator `,`. -/
  | flowEntry
  /-- A mapping key, with `?` or found before a `:`. -/
  | key
  /-- A mapping value `:`. -/
  | value
  /-- An alias `*name`. -/
  | alias (name : String)
  /-- An anchor `&name`. -/
  | anchor (name : String)
  /-- A tag: its handle (empty for a verbatim tag) and suffix. -/
  | tag (handle suffix : String)
  /-- A scalar with its text and how it was written. -/
  | scalar (text : String) (style : Style)
  deriving Repr, Inhabited, DecidableEq

/-- A syntax error. -/
structure SyntaxError where
  /-- What is wrong. -/
  problem : String
  /-- Where it was found. -/
  problemMark : Mark
  /-- Where the construct it was found in starts; the start of the text when none is named. -/
  contextMark : Mark
  /-- Whether the scanner found it, rather than the parser. -/
  byScanner : Bool
  /-- How many characters of the text the reader had been asked for. -/
  demand : Nat
  deriving Repr, Inhabited

/-- The message of a syntax error, as the library words it. -/
def SyntaxError.message (e : SyntaxError) : String :=
  let shift : Nat := if e.byScanner then 1 else 0
  let line := if e.contextMark.line ≠ 0 then e.contextMark.line + shift
    else if e.problemMark.line ≠ 0 then e.problemMark.line + shift
    else 0
  "yaml: " ++ (if line = 0 then "" else "line " ++ toString line ++ ": ") ++ e.problem

/-- A place where a key without `?` may start. -/
structure SimpleKey where
  /-- Whether a key may still start here. -/
  possible : Bool
  /-- Whether a key must start here. -/
  required : Bool
  /-- The number of the token the key would start at. -/
  tokenNumber : Nat
  /-- Where the key would start. -/
  mark : Mark
  deriving Repr, Inhabited

/-- The state of the scanner. -/
structure Scanner where
  /-- The characters of the text, without a leading byte order mark. -/
  text : Array Char
  /-- Where the scanner stands. -/
  mark : Mark
  /-- The line breaks passed since the last character that was not blank. -/
  newlines : Nat
  /-- How many characters of the text the scanner has asked the reader for. -/
  demand : Nat
  /-- Whether the start of the text has been given. -/
  started : Bool
  /-- The indentation of the innermost block collection; `-1` outside any. -/
  indent : Int
  /-- The indentations of the enclosing block collections, innermost first. -/
  indents : List Int
  /-- How many flow collections the scanner is inside. -/
  flowLevel : Nat
  /-- Whether a key without `?` may start at the current place. -/
  keyAllowed : Bool
  /-- The possible key of each flow level, the outermost first. -/
  keys : Array SimpleKey
  /-- For the possible keys found, the token number each starts at and its flow level. -/
  keysByToken : List (Nat × Nat)
  /-- The tokens read and not yet taken, each with the place where it starts. -/
  queue : List (Token × Mark)
  /-- How many tokens have been taken. -/
  taken : Nat
  /-- Whether the first token of the queue is ready to be taken. -/
  available : Bool
  deriving Repr, Inhabited

/-- The most characters a scanner loop can meet: enough fuel for any loop over the text. -/
def Scanner.fuel (s : Scanner) : Nat := s.text.size + 8

/-- A scanner step: it changes the state, and fails on a syntax error. -/
abbrev Scan := StateT Scanner (Except SyntaxError)

/-- Fails with an error found at the current place, in a construct starting at `context`. -/
def scanError (context : Mark) (problem : String) : Scan α := do
  let s ← get
  throw ⟨problem, s.mark, context, true, s.demand⟩

/-- Fails with an error found at the current place, which is also the construct's start. -/
def scanErrorHere (problem : String) : Scan α := do
  scanError (← get).mark problem

/-- The scanner at the start of a text. -/
def Scanner.start (text : Array Char) : Scanner :=
  { text, mark := ⟨0, 0, 0⟩, newlines := 0, demand := 0, started := false, indent := -1,
    indents := [], flowLevel := 0, keyAllowed := false, keys := #[], keysByToken := [],
    queue := [], taken := 0, available := false }

/-- The character `k` places ahead; NUL past the end of the text. -/
def Scanner.ahead (s : Scanner) (k : Nat) : Char := s.text.getD (s.mark.index + k) (Char.ofNat 0)

/-- The character `k` places ahead. -/
def peekAt (k : Nat) : Scan Char := do return (← get).ahead k

/-- The character at the current place. -/
def current : Scan Char := peekAt 0

/-- Asks the reader for the next `n` characters. -/
def need (n : Nat) : Scan Unit :=
  modify fun s => { s with demand := max s.demand (s.mark.index + n) }

/-- Moves past one character on the line. -/
def skip : Scan Unit :=
  modify fun s =>
    { s with
      newlines := if isBlank (s.ahead 0) then s.newlines else 0,
      mark := { s.mark with index := s.mark.index + 1, column := s.mark.column + 1 } }

/-- Moves past one character and gives it. -/
def readChar : Scan Char := do
  let c ← current
  skip
  return c

/-- Moves past a line break, if there is one; a carriage return and line feed are one
break. -/
def skipLine : Scan Unit :=
  modify fun s =>
    let width := if s.ahead 0 = '\r' && s.ahead 1 = '\n' then 2
      else if isBreak (s.ahead 0) then 1 else 0
    if width = 0 then s
    else
      { s with
        mark := ⟨s.mark.index + width, s.mark.line + 1, 0⟩, newlines := s.newlines + 1 }

/-- Moves past a line break and gives the text it stands for in a scalar: a line feed for
line feed, carriage return and NEL, and the separator itself for `U+2028` and `U+2029`;
nothing when there is no break. -/
def readLine : Scan String := do
  let c ← current
  let text := if c.toNat = 0x2028 || c.toNat = 0x2029 then String.singleton c
    else if isBreak c then "\n" else ""
  skipLine
  return text

/-- The number the next token read will have. -/
def Scanner.nextNumber (s : Scanner) : Nat := s.taken + s.queue.length

/-- Adds a token starting at `m` at the end of the queue. -/
def addToken (t : Token) (m : Mark) : Scan Unit :=
  modify fun s => { s with queue := s.queue ++ [(t, m)] }

/-- Inserts a token starting at `m` at a place in the queue. -/
def insertToken (place : Nat) (t : Token) (m : Mark) : Scan Unit :=
  modify fun s => { s with queue := s.queue.take place ++ (t, m) :: s.queue.drop place }

/-- The possible key of the innermost flow level. -/
def Scanner.topKey (s : Scanner) : SimpleKey := s.keys.getD (s.keys.size - 1) default

/-- The state with the possible key at a flow level replaced. -/
def Scanner.setKey (s : Scanner) (level : Nat) (k : SimpleKey) : Scanner :=
  { s with keys := s.keys.setIfInBounds level k }

/-- Forgets which flow level the key starting at a token belongs to. -/
def Scanner.forgetToken (s : Scanner) (number : Nat) : Scanner :=
  { s with keysByToken := s.keysByToken.filter (·.1 ≠ number) }

/-- Whether the possible key at a flow level can still be a key; one that can no longer be
is marked so, and is an error when it was required. -/
def keyStillPossible (level : Nat) : Scan Bool := do
  let s ← get
  let k := s.keys.getD level default
  if !k.possible then return false
  if k.mark.line < s.mark.line || k.mark.index + 1024 < s.mark.index then
    if k.required then scanError k.mark "could not find expected ':'"
    set (s.setKey level { k with possible := false })
    return false
  return true

/-- Drops the possible key of the innermost flow level; an error when it was required. -/
def removeKey : Scan Unit := do
  let s ← get
  let k := s.topKey
  if k.possible then
    if k.required then scanError k.mark "could not find expected ':'"
    set ((s.setKey (s.keys.size - 1) { k with possible := false }).forgetToken k.tokenNumber)

/-- Remembers the current place as a possible key, when a key may start here. -/
def saveKey : Scan Unit := do
  let s ← get
  if s.keyAllowed then
    let k : SimpleKey :=
      ⟨true, s.flowLevel = 0 && s.indent = s.mark.column, s.nextNumber, s.mark⟩
    removeKey
    modify fun s =>
      let level := s.keys.size - 1
      let s := (s.setKey level k).forgetToken k.tokenNumber
      { s with keysByToken := (k.tokenNumber, level) :: s.keysByToken }

/-- Enters a flow collection. -/
def enterFlow : Scan Unit := do
  modify fun s =>
    { s with keys := s.keys.push ⟨false, false, 0, s.mark⟩, flowLevel := s.flowLevel + 1 }
  if (← get).flowLevel > 10000 then
    scanError (← get).topKey.mark "exceeded max depth of 10000"

/-- Leaves a flow collection. -/
def leaveFlow : Scan Unit :=
  modify fun s =>
    if s.flowLevel = 0 then s
    else
      let k := s.topKey
      { (s.forgetToken k.tokenNumber) with flowLevel := s.flowLevel - 1, keys := s.keys.pop }

/-- Opens a block collection at a column deeper than the current indentation: the token
`t` starting it, at `m`, goes at token number `number`, or at the end of the queue. Nothing
happens inside a flow collection. -/
def rollIndent (column : Nat) (number : Option Nat) (t : Token) (m : Mark) : Scan Unit := do
  let s ← get
  if s.flowLevel > 0 then return
  if s.indent < column then
    set { s with indents := s.indent :: s.indents, indent := column }
    if s.indents.length + 1 > 10000 then
      scanError s.topKey.mark "exceeded max depth of 10000"
    match number with
    | some n => insertToken (n - s.taken) t m
    | none => addToken t m

/-- The block collections closed when the indentation falls to `column`: how many, and the
indentation and enclosing indentations left. -/
def closeBlocks (column : Int) : Int → List Int → Nat × Int × List Int
  | indent, [] => (0, indent, [])
  | indent, outer :: rest =>
    if indent > column then
      let (n, i, is) := closeBlocks column outer rest
      (n + 1, i, is)
    else (0, indent, outer :: rest)

/-- Closes the block collections deeper than `column`, each with a block end token. Nothing
happens inside a flow collection. -/
def unrollIndent (column : Int) : Scan Unit := do
  let s ← get
  if s.flowLevel > 0 then return
  let (n, indent, indents) := closeBlocks column s.indent s.indents
  set { s with indent, indents, queue := s.queue ++ List.replicate n (Token.blockEnd, s.mark) }

/-- Skips blanks on the current line. -/
def skipBlanks : Nat → Scan Unit
  | 0 => pure ()
  | fuel + 1 => do
    need 1
    if isBlank (← current) then
      skip
      skipBlanks fuel

/-- Skips to the end of the line. -/
def skipToBreak : Nat → Scan Unit
  | 0 => pure ()
  | fuel + 1 => do
    need 1
    if !isBreakNul (← current) then
      skip
      skipToBreak fuel

end Admission.Yaml
