import Admission.Yaml.Tokens
import Admission.Yaml.Resolve

/-!
# Composing a document

The parser takes the tokens of the first document and builds its tree of nodes:

* a document may start with directives (`%YAML 1.1` at most once, `%TAG` handles given at
  most once each) and then must start with `---`; without directives `---` may be left out;
* a node may carry an anchor and a tag, in either order; an alias stands for the last node
  given its anchor before it, and an alias to an anchor not yet given is an error;
* block sequences and mappings are closed by the end of their indentation; a block mapping
  value may be a sequence at the key's own indentation; flow collections nest and may end
  with a comma; a flow sequence entry `k: v` is a mapping of one pair;
* an entry, key or value with nothing written is the empty plain scalar.

The document ends at the token after its root node, which need not be a document marker:
what follows the first document is not read further.

Each node gets its tag as the library would report it: an explicit tag in its short form
(`!!str` for `tag:yaml.org,2002:str`); otherwise `!!map` or `!!seq` for collections, `!!str`
for a scalar that is not plain, `!!merge` for the plain scalar `<<`, and for any other plain
scalar the tag of what it reads as.
-/

namespace Admission.Yaml

/-- A node of a YAML document. -/
inductive Node where
  /-- A scalar: its tag, text and how it was written. -/
  | scalar (tag : String) (text : String) (style : Style)
  /-- A sequence: its tag and items. -/
  | sequence (tag : String) (items : List Node)
  /-- A mapping: its tag and its keys and values in order. -/
  | mapping (tag : String) (entries : List (Node × Node))
  /-- An alias: the anchor's name, the number of the anchored node it stands for, and the
  number of the alias itself. -/
  | alias (name : String) (target : Nat) (occurrence : Nat)
  deriving Repr, Inhabited

/-- The empty plain scalar, which stands for a missing node. -/
def Node.empty : Node := .scalar nullTag "" .plain

/-- A document: its root node, and the anchored nodes by number. -/
structure Document where
  /-- The root node; none for a text with no document. -/
  root : Option Node
  /-- The nodes given an anchor, in the order their anchors appear. -/
  anchored : Array Node
  deriving Repr, Inhabited

/-- The state of the parser. -/
structure Composer where
  /-- The scanner. -/
  scanner : Scanner
  /-- The tag handles of the document and what they stand for. -/
  handles : List (String × String)
  /-- The anchors given so far, the latest first, with their nodes' numbers. -/
  anchors : List (String × Nat)
  /-- The anchored nodes by number; a node is recorded once it is complete. -/
  anchored : Array Node
  /-- The number of aliases met. -/
  aliases : Nat
  deriving Inhabited

/-- A parser step. -/
abbrev Compose := StateT Composer (Except SyntaxError)

/-- Runs a scanner step inside the parser. -/
def scanning (m : Scan α) : Compose α := do
  let c ← get
  match m.run c.scanner with
  | .ok (a, s) =>
    set { c with scanner := s }
    pure a
  | .error e => throw e

/-- The next token. -/
def peek : Compose Token := scanning peekToken

/-- Where the next token starts. -/
def peekMark : Compose Mark := do return (← scanning peekMarked).2

/-- Takes the next token. -/
def take : Compose Unit := scanning takeToken

/-- Fails with an error the parser found in the token starting at `found`, inside a
construct starting at `context`. -/
def parseError (context : Mark) (problem : String) (found : Mark) : Compose α := do
  throw ⟨problem, found, context, false, (← get).scanner.demand⟩

/-- Fails with an error the parser found in the token starting at `found`, inside no
construct. -/
def parseErrorAt (problem : String) (found : Mark) : Compose α :=
  parseError ⟨0, 0, 0⟩ problem found

/-- Fails with an error that names no place. -/
def composeError (problem : String) : Compose α :=
  parseErrorAt problem ⟨0, 0, 0⟩

/-- The handles every document has: `!` and `!!`. -/
def defaultHandles : List (String × String) := [("!", "!"), ("!!", standardPrefix)]

/-- Reads the directives before a document, then adds the default handles not given. -/
def directives : Nat → Bool → Compose Unit
  | 0, _ => composeError "parser ran out of fuel"
  | fuel + 1, versionSeen => do
    match ← peek with
    | .versionDirective major minor =>
      if versionSeen then parseErrorAt "found duplicate %YAML directive" (← peekMark)
      if major ≠ 1 || minor ≠ 1 then
        parseErrorAt "found incompatible YAML document" (← peekMark)
      take
      directives fuel true
    | .tagDirective handle expansion =>
      if (← get).handles.any (·.1 = handle) then
        parseErrorAt "found duplicate %TAG directive" (← peekMark)
      modify fun c => { c with handles := c.handles ++ [(handle, expansion)] }
      take
      directives fuel versionSeen
    | _ =>
      modify fun c =>
        { c with handles := c.handles ++
          defaultHandles.filter fun d => !c.handles.any (·.1 = d.1) }

/-- The full tag of a tag token, by its handle; the node starts at `start` and the tag at
`tagMark`. -/
def fullTag (handle suffix : String) (start tagMark : Mark) : Compose String := do
  if handle.isEmpty then return suffix
  match (← get).handles.find? (·.1 = handle) with
  | some (_, expansion) =>
    let t := expansion ++ suffix
    if t.isEmpty then parseError start "found undefined tag handle" tagMark
    return t
  | none => parseError start "found undefined tag handle" tagMark

/-- The tag a node gets: an explicit tag other than `!` in short form, else `fallback`. -/
def nodeTag (tag fallback : String) : String :=
  if tag ≠ "" && tag ≠ "!" then shortTag tag else fallback

/-- The tag a scalar gets. -/
def scalarTag (tag text : String) (style : Style) : String :=
  nodeTag tag
    (if style ≠ .plain then strTag
     else if text = "<<" then mergeTag
     else (readPlain "" text).1)

/-- Records a complete node under its anchor, if it has one. -/
def record (anchor : Option Nat) (n : Node) : Compose Node := do
  if let some i := anchor then
    modify fun c => { c with anchored := c.anchored.setIfInBounds i n }
  return n

/-- Gives a new anchor its number, before the node's content is read. -/
def openAnchor : Option String → Compose (Option Nat)
  | none => pure none
  | some name => do
    let c ← get
    let i := c.anchored.size
    set { c with anchors := (name, i) :: c.anchors, anchored := c.anchored.push Node.empty }
    return some i

/-- Whether a token ends the entries of a block collection's item. -/
def endsBlockItem : Token → Bool
  | .key | .value | .blockEnd => true
  | _ => false

mutual

/-- Reads a node. `block` allows block collections; `indentless` allows a sequence of entries
at the indentation of the enclosing mapping's keys. -/
def node : Nat → Bool → Bool → Compose Node
  | 0, _, _ => composeError "parser ran out of fuel"
  | fuel + 1, block, indentless => do
    let t ← peek
    let start ← peekMark
    if let .alias name := t then
      take
      let c ← get
      match c.anchors.lookup name with
      | none => composeError ("unknown anchor '" ++ name ++ "' referenced")
      | some target =>
        set { c with aliases := c.aliases + 1 }
        return .alias name target c.aliases
    -- the anchor and tag, in either order
    let (anchor, tagToken) ← match t with
      | .anchor a => do
        take
        match ← peek with
        | .tag h s =>
          let m ← peekMark
          take
          pure (some a, some (h, s, m))
        | _ => pure (some a, none)
      | .tag h s => do
        take
        match ← peek with
        | .anchor a =>
          take
          pure (some a, some (h, s, start))
        | _ => pure (none, some (h, s, start))
      | _ => pure (none, none)
    let tag ← match tagToken with
      | some (h, s, m) => fullTag h s start m
      | none => pure ""
    let t ← peek
    let here ← peekMark
    if indentless && t = .blockEntry then
      let id ← openAnchor anchor
      let items ← indentlessEntries fuel []
      record id (.sequence (nodeTag tag seqTag) items)
    else
      match t with
      | .scalar text style =>
        take
        let id ← openAnchor anchor
        record id (.scalar (scalarTag tag text style) text style)
      | .flowSequenceStart =>
        take
        let id ← openAnchor anchor
        let items ← flowSequence here fuel true []
        record id (.sequence (nodeTag tag seqTag) items)
      | .flowMappingStart =>
        take
        let id ← openAnchor anchor
        let entries ← flowMapping here fuel true []
        record id (.mapping (nodeTag tag mapTag) entries)
      | .blockSequenceStart =>
        if !block then parseError start "did not find expected node content" here
        take
        let id ← openAnchor anchor
        let items ← blockSequence here fuel []
        record id (.sequence (nodeTag tag seqTag) items)
      | .blockMappingStart =>
        if !block then parseError start "did not find expected node content" here
        take
        let id ← openAnchor anchor
        let entries ← blockMapping here fuel []
        record id (.mapping (nodeTag tag mapTag) entries)
      | _ =>
        if anchor.isSome || tagToken.isSome then
          let id ← openAnchor anchor
          record id (.scalar (scalarTag tag "" .plain) "" .plain)
        else parseError start "did not find expected node content" here

/-- Reads the entries of a block sequence starting at `opened`, after its start. -/
def blockSequence (opened : Mark) : Nat → List Node → Compose (List Node)
  | 0, _ => composeError "parser ran out of fuel"
  | fuel + 1, acc => do
    match ← peek with
    | .blockEntry =>
      take
      let t ← peek
      if t = .blockEntry || t = .blockEnd then blockSequence opened fuel (Node.empty :: acc)
      else
        let n ← node fuel true false
        blockSequence opened fuel (n :: acc)
    | .blockEnd =>
      take
      return acc.reverse
    | _ => parseError opened "did not find expected '-' indicator" (← peekMark)

/-- Reads the entries of a sequence at the indentation of the enclosing mapping. -/
def indentlessEntries : Nat → List Node → Compose (List Node)
  | 0, _ => composeError "parser ran out of fuel"
  | fuel + 1, acc => do
    match ← peek with
    | .blockEntry =>
      take
      let t ← peek
      if t = .blockEntry || endsBlockItem t then indentlessEntries fuel (Node.empty :: acc)
      else
        let n ← node fuel true false
        indentlessEntries fuel (n :: acc)
    | _ => return acc.reverse

/-- Reads the pairs of a block mapping starting at `opened`, after its start. -/
def blockMapping (opened : Mark) : Nat → List (Node × Node) → Compose (List (Node × Node))
  | 0, _ => composeError "parser ran out of fuel"
  | fuel + 1, acc => do
    match ← peek with
    | .key =>
      take
      let k ← if endsBlockItem (← peek) then pure Node.empty else node fuel true true
      let v ← blockValue fuel
      blockMapping opened fuel ((k, v) :: acc)
    | .blockEnd =>
      take
      return acc.reverse
    | _ => parseError opened "did not find expected key" (← peekMark)

/-- Reads the value of a block mapping pair: after `:`, or empty without one. -/
def blockValue : Nat → Compose Node
  | 0 => composeError "parser ran out of fuel"
  | fuel + 1 => do
    match ← peek with
    | .value =>
      take
      if endsBlockItem (← peek) then pure Node.empty else node fuel true true
    | _ => pure Node.empty

/-- Reads the entries of a flow sequence starting at `opened`, after `[`. -/
def flowSequence (opened : Mark) : Nat → Bool → List Node → Compose (List Node)
  | 0, _, _ => composeError "parser ran out of fuel"
  | fuel + 1, first, acc => do
    let t ← peek
    if t = .flowSequenceEnd then
      take
      return acc.reverse
    let t ← if first then pure t
      else if t = .flowEntry then do
        take
        peek
      else parseError opened "did not find expected ',' or ']'" (← peekMark)
    if t = .key then
      -- an explicit key starts a mapping of one pair
      take
      let k ← match ← peek with
        | .value | .flowEntry | .flowSequenceEnd => do
          take
          pure Node.empty
        | _ => node fuel false false
      let v ← match ← peek with
        | .value => do
          take
          match ← peek with
          | .flowEntry | .flowSequenceEnd => pure Node.empty
          | _ => node fuel false false
        | _ => pure Node.empty
      flowSequence opened fuel false (.mapping mapTag [(k, v)] :: acc)
    else if t = .flowSequenceEnd then
      take
      return acc.reverse
    else
      let n ← node fuel false false
      flowSequence opened fuel false (n :: acc)

/-- Reads the pairs of a flow mapping starting at `opened`, after its opening brace. -/
def flowMapping (opened : Mark) : Nat → Bool → List (Node × Node) →
    Compose (List (Node × Node))
  | 0, _, _ => composeError "parser ran out of fuel"
  | fuel + 1, first, acc => do
    let t ← peek
    if t = .flowMappingEnd then
      take
      return acc.reverse
    let t ← if first then pure t
      else if t = .flowEntry then do
        take
        peek
      else parseError opened "did not find expected ',' or '\x7d'" (← peekMark)
    if t = .key then
      take
      let k ← match ← peek with
        | .value | .flowEntry | .flowMappingEnd => pure Node.empty
        | _ => node fuel false false
      let v ← flowValue fuel
      flowMapping opened fuel false ((k, v) :: acc)
    else if t = .flowMappingEnd then
      take
      return acc.reverse
    else
      let k ← node fuel false false
      flowMapping opened fuel false ((k, Node.empty) :: acc)

/-- Reads the value of a flow mapping pair: after `:`, or empty without one. -/
def flowValue : Nat → Compose Node
  | 0 => composeError "parser ran out of fuel"
  | fuel + 1 => do
    match ← peek with
    | .value =>
      take
      match ← peek with
      | .flowEntry | .flowMappingEnd => pure Node.empty
      | _ => node fuel false false
    | _ => pure Node.empty

end

/-- Reads the first document of the stream: none when the stream holds none. -/
def firstDocument (fuel : Nat) : Compose (Option Node) := do
  if (← peek) ≠ .streamStart then
    parseErrorAt "did not find expected <stream-start>" (← peekMark)
  take
  let t ← peek
  let root ← match t with
    | .streamEnd => pure none
    | .versionDirective _ _ | .tagDirective _ _ | .documentStart => do
      directives fuel false
      if (← peek) ≠ .documentStart then
        parseErrorAt "did not find expected <document start>" (← peekMark)
      take
      match ← peek with
      | .versionDirective _ _ | .tagDirective _ _ | .documentStart | .documentEnd
      | .streamEnd => pure (some Node.empty)
      | _ => some <$> node fuel true false
    | _ => do
      directives fuel false
      some <$> node fuel true false
  if root.isSome then
    if (← peek) = .documentEnd then take
  return root

/-- Reads the first document of a text: the document, and how many characters of the text the
scanner asked for; or the syntax error met. -/
def compose (text : Array Char) : Except SyntaxError (Document × Nat) := do
  let c : Composer := ⟨Scanner.start text, [], [], #[], 0⟩
  let fuel := 4 * text.size + 64
  let (root, c) ← (firstDocument fuel).run c
  return (⟨root, c.anchored⟩, c.scanner.demand)

end Admission.Yaml
