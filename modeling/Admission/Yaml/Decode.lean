import Admission.Yaml.Compose
import Admission.Decimal.Format
import Admission.Text.Quoted

/-!
# Typed values from YAML documents

A document's nodes are read into typed values (`Decoder`), with these rules:

* an alias is read as the node it stands for; an alias met again while its own node is being
  read is an error, and so is a document where aliases make up almost all of a large read;
* a scalar that reads as null leaves a field as it was (an optional field becomes absent, a
  list empty), and a null item is left out of its list;
* an integer field takes an integer in range, or a float up to `2^63` truncated toward zero;
* a text field takes any other scalar's text as written (base64 data decoded);
* a truth-value field also takes the text `yes`, `on`, `y` and their negations;
* a float field takes an integer or a float;
* a record takes a mapping: each key naming a field sets it, other keys are ignored, and a
  key given twice is an error. The merge key `<<` takes a mapping, or a sequence of mappings,
  whose fields are set after the mapping's own keys and only where those did not set them;
  the earlier mappings of a sequence win.

Before a merge, the keys of the mapping are read without a target type (`Loose`) into the set
of keys the merge must leave alone, and so are the keys of any mapping read while that set is
being built. A key read as a sequence or a mapping cannot be hashed into that set: the run
then ends with a runtime panic that names the key's type (`[]interface {}`;
`map[string]interface {}` for a mapping whose keys are all tagged as text or merge keys,
`map[interface {}]interface {}` for any other).

Any other pairing of a node with a value is a mismatch: the value is left as it was (an item
is left out of its list) and reading goes on, and the document fails at the end. A text that
does not match its explicit tag, bad base64 data, an alias that contains itself, excessive
aliasing and a merge of anything but mappings stop the reading at once instead, with a
message of their own.
-/

namespace Admission.Yaml

/-- The state of a read. -/
structure Decoding where
  /-- The anchored nodes of the document, by number. -/
  anchored : Array Node
  /-- How many nodes have been read. -/
  decodeCount : Nat
  /-- How many of them were read through an alias. -/
  aliasCount : Nat
  /-- How many aliases are being read, one inside the other. -/
  aliasDepth : Nat
  /-- The aliases being read. -/
  expanding : List Nat
  /-- While merging, the keys already set. -/
  merged : Option (List Scalar)
  /-- How many nodes did not fit the values they were read into. -/
  mismatches : Nat
  deriving Inhabited

/-- Why a read stopped before its end. -/
inductive Halt where
  /-- A failure, with the library's message. -/
  | failure (message : String)
  /-- A runtime panic: a value of the named type cannot be hashed, yet it was used as a key. -/
  | unhashable (typeName : String)
  deriving DecidableEq, Repr

/-- A reading step; it stops on a failure or a panic that ends the reading. -/
abbrev Dec := StateT Decoding (Except Halt)

/-- Stops the read with a failure. -/
def fail (message : String) : Dec α := throw (.failure message)

/-- Reads a node into a value of type `α`, starting from the value already there: the new
value and whether the node gave one. The number is the fuel for the nodes inside. -/
abbrev Decoder (α : Type) := Nat → Node → α → Dec (α × Bool)

/-- Whether aliases make up too much of a read: more than 99% of up to 400000 nodes read,
falling to 10% at 4000000. -/
def aliasRatioExceeded (aliases decodes : Nat) : Bool :=
  aliases > 100 && decodes > 1000 &&
    (if decodes ≤ 400000 then aliases * 100 > 99 * decodes
     else if decodes ≥ 4000000 then aliases * 10 > decodes
     else aliases * 360000000 > decodes * (356400000 - 89 * (decodes - 400000)))

/-- Counts a node read and checks the share of nodes read through aliases. -/
def countRead : Dec Unit := do
  modify fun s =>
    { s with decodeCount := s.decodeCount + 1,
             aliasCount := if s.aliasDepth > 0 then s.aliasCount + 1 else s.aliasCount }
  let s ← get
  if aliasRatioExceeded s.aliasCount s.decodeCount then
    fail "document contains excessive aliasing"

/-- Reads a node with a decoder, counting it, and reading an alias as the node it stands for. -/
def unmarshal (d : Decoder α) : Decoder α
  | 0, _, _ => fail "decoder ran out of fuel"
  | fuel + 1, n, out => do
    countRead
    let s ← get
    match n with
    | .alias name target occurrence =>
      if s.expanding.contains occurrence then
        fail ("anchor '" ++ name ++ "' value contains itself")
      set { s with expanding := occurrence :: s.expanding, aliasDepth := s.aliasDepth + 1 }
      let r ← unmarshal d fuel (s.anchored.getD target Node.empty) out
      modify fun s =>
        { s with expanding := s.expanding.erase occurrence, aliasDepth := s.aliasDepth - 1 }
      return r
    | _ => d fuel n out

/-- What a scalar node reads as: its tag and value. A scalar tagged as text is text, and
base64 data is decoded. -/
def scalarValue (tag text : String) : Except String (String × Scalar) := do
  if tag = strTag then return (strTag, .text text)
  let (t, v) ← resolve tag text
  if t = binaryTag then
    match decodeBase64 text with
    | some s => return (binaryTag, .text s)
    | none => throw "!!binary value contains invalid base64 data"
  return (t, v)

/-- What a scalar node reads as, within a read. -/
def readScalar (tag text : String) : Dec (String × Scalar) :=
  match scalarValue tag text with
  | .ok v => pure v
  | .error m => fail m

/-- Whether two scalars are the same key of a map: of the same kind and equal, floats compared
as numbers, so that `NaN` equals no key and the two zeros are one key. -/
def Scalar.keyEq : Scalar → Scalar → Bool
  | .null, .null => true
  | .bool a, .bool b => a == b
  | .int a, .int b => a == b
  | .float a, .float b => Binary64.eqv a b
  | .text a, .text b => a == b
  | _, _ => false

/-- Reading a node into a value of the wrong kind: the mismatch is counted and the value is
left as it was. -/
def mismatch (old : α) : Dec (α × Bool) := do
  modify fun s => { s with mismatches := s.mismatches + 1 }
  return (old, false)

namespace Decoder

/-- A 64-bit integer. -/
def int64 : Decoder Int64 := fun _ n old =>
  match n with
  | .scalar tag text _ => do
    match (← readScalar tag text) with
    | (_, .null) => return (old, false)
    | (_, .int i) =>
      if -(Nat.pow 2 63 : Int) ≤ i && i < (Nat.pow 2 63 : Int) then return (Int64.ofInt i, true)
      else mismatch old
    | (_, .float x) =>
      if Binary64.le x (Binary64.ofInt (Nat.pow 2 63 : Int)) then
        return (Binary64.truncInt64 x, true)
      else mismatch old
    | _ => mismatch old
  | _ => mismatch old

/-- Text: any scalar as written, base64 data decoded. -/
def string : Decoder String := fun _ n old =>
  match n with
  | .scalar tag text _ => do
    match (← readScalar tag text) with
    | (_, .null) => return (old, false)
    | (t, .text s) => return (if t = binaryTag then s else text, true)
    | _ => return (text, true)
  | _ => mismatch old

/-- A truth value, also from the older spellings written as text. -/
def bool : Decoder Bool := fun _ n old =>
  match n with
  | .scalar tag text _ => do
    match (← readScalar tag text) with
    | (_, .null) => return (old, false)
    | (_, .bool b) => return (b, true)
    | (_, .text s) =>
      if ["y", "Y", "yes", "Yes", "YES", "on", "On", "ON"].contains s then return (true, true)
      else if ["n", "N", "no", "No", "NO", "off", "Off", "OFF"].contains s then
        return (false, true)
      else mismatch old
    | _ => mismatch old
  | _ => mismatch old

/-- A binary64 float, also from an integer. -/
def float : Decoder Binary64 := fun _ n old =>
  match n with
  | .scalar tag text _ => do
    match (← readScalar tag text) with
    | (_, .null) => return (old, false)
    | (_, .int i) => return (Binary64.ofInt i, true)
    | (_, .float x) => return (x, true)
    | _ => mismatch old
  | _ => mismatch old

/-- The tag of a node. -/
def tagOf : Node → String
  | .scalar t _ _ => t
  | .sequence t _ => t
  | .mapping t _ => t
  | .alias _ _ _ => ""

/-- An optional value: a node tagged null makes it absent; any other node is read into the
value already there, or into `zero`. -/
def option (d : Decoder α) (zero : α) : Decoder (Option α) := fun fuel n old => do
  if tagOf n = nullTag then
    match n with
    | .scalar tag text _ =>
      match (← readScalar tag text) with
      | (_, .null) => return (none, true)
      | _ => mismatch old
    | _ => mismatch old
  else
    let (v, good) ← d fuel n (old.getD zero)
    return (some v, good)

/-- Reads the items of a sequence, each into a fresh `zero`; an item that gives no value is
left out. -/
def items (d : Decoder α) (zero : α) (fuel : Nat) : List Node → Dec (List α)
  | [] => pure []
  | n :: ns => do
    let (v, good) ← unmarshal d fuel n zero
    let vs ← items d zero fuel ns
    return (if good then v :: vs else vs)

/-- A list: a null scalar empties it, a sequence replaces it. -/
def list (d : Decoder α) (zero : α) : Decoder (List α) := fun fuel n old =>
  match n with
  | .sequence _ ns => do
    let vs ← items d zero fuel ns
    return (vs, true)
  | .scalar tag text _ => do
    match (← readScalar tag text) with
    | (_, .null) => return ([], true)
    | _ => mismatch old
  | _ => mismatch old

/-- Whether two keys of a mapping are the same key: of the same kind with the same text (an
alias's text is its name, a collection's is empty). -/
def sameKey : Node → Node → Bool
  | .scalar _ a _, .scalar _ b _ => a == b
  | .alias a _ _, .alias b _ _ => a == b
  | .sequence _ _, .sequence _ _ => true
  | .mapping _ _, .mapping _ _ => true
  | _, _ => false

/-- Whether a mapping gives some key twice. -/
def repeatsKey : List (Node × Node) → Bool
  | [] => false
  | (k, _) :: rest => rest.any (fun kv => sameKey k kv.1) || repeatsKey rest

/-- Whether a key is the merge key `<<`. -/
def isMerge : Node → Bool
  | .scalar tag text _ => text = "<<" && tag = mergeTag
  | _ => false

end Decoder

/-- A node read without a target type, as the keys of a mapping are read for a merge. -/
inductive Loose where
  /-- A scalar's value; a timestamp and base64 data as text. -/
  | scalar (v : Scalar)
  /-- A sequence: the items that gave a value. -/
  | list (items : List Loose)
  /-- A mapping, as a map whose keys are text (`textKeys`) or values of any kind. -/
  | map (textKeys : Bool) (entries : List (Loose × Loose))
  deriving Repr, Inhabited

namespace Loose

/-- The runtime type name of a value read without a target type. -/
def typeName : Loose → String
  | .scalar _ => "interface \x7b\x7d"
  | .list _ => "[]interface \x7b\x7d"
  | .map true _ => "map[string]interface \x7b\x7d"
  | .map false _ => "map[interface \x7b\x7d]interface \x7b\x7d"

/-- A number in hexadecimal, lowercase. -/
def hexText (n : Nat) : String := String.ofList (Nat.toDigits 16 n)

mutual

/-- A value as a library message writes it, in the syntax of the runtime's literals: text
quoted, a number above the signed range in hexadecimal, a map's entries ordered by key. -/
def render : Loose → String
  | .scalar .null => "interface \x7b\x7d(nil)"
  | .scalar (.bool b) => if b then "true" else "false"
  | .scalar (.int n) => if n < (Nat.pow 2 63 : Int) then toString n else "0x" ++ hexText n.toNat
  | .scalar (.float x) => Decimal.text .plain x
  | .scalar (.text s) => Text.quote s
  | .scalar .timestamp => Text.quote ""
  | .list items => "[]interface \x7b\x7d\x7b" ++ ", ".intercalate (renderItems items) ++ "\x7d"
  | .map textKeys entries =>
    let pairs := (renderPairs entries).mergeSort fun a b => a.1 ≤ b.1
    (Loose.map textKeys []).typeName ++ "\x7b" ++
      ", ".intercalate (pairs.map fun (k, v) => k ++ ":" ++ v) ++ "\x7d"

/-- The items of a list, each written. -/
def renderItems : List Loose → List String
  | [] => []
  | x :: xs => render x :: renderItems xs

/-- The entries of a map, each key and value written. -/
def renderPairs : List (Loose × Loose) → List (String × String)
  | [] => []
  | (k, v) :: es => (render k, render v) :: renderPairs es

end

end Loose

/-- One field of a record: its key and how its value is read into the record. -/
structure Field (σ : Type) where
  /-- The key naming the field. -/
  name : String
  /-- Reads a node into the field of a record. -/
  read : Nat → Node → σ → Dec σ

namespace Decoder

/-- A field read by a decoder, through a getter and a setter. -/
def field (name : String) (get : σ → α) (set : σ → α → σ) (d : Decoder α) : Field σ :=
  ⟨name, fun fuel n s => do
    let (v, _) ← unmarshal d fuel n (get s)
    return set s v⟩

/-- Applies the entries of a mapping to a record: each key is read as text, a key already set
by a merge is skipped, a key naming a field sets it (a second time is a mismatch). Gives the
record, the keys set while merging, and the value of the merge key if there was one. -/
def applyEntries (fields : List (Field σ)) (fuel : Nat) :
    List (Node × Node) → σ → Option (List Scalar) → List String → Option Node → String →
      Dec (σ × Option (List Scalar) × Option Node)
  | [], s, merged, _, mergeNode, _ => pure (s, merged, mergeNode)
  | (k, v) :: rest, s, merged, done, mergeNode, name => do
    if isMerge k then applyEntries fields fuel rest s merged done (some v) name
    else
      let (name, good) ← unmarshal string fuel k name
      if !good then applyEntries fields fuel rest s merged done mergeNode name
      else if (merged.map (·.any (Scalar.keyEq (.text name)))).getD false then
        applyEntries fields fuel rest s merged done mergeNode name
      else
        let merged := merged.map (.text name :: ·)
        match fields.find? (·.name = name) with
        | some f =>
          if done.contains name then
            let _ ← mismatch ()
            applyEntries fields fuel rest s merged done mergeNode name
          else
            let s ← f.read fuel v s
            applyEntries fields fuel rest s merged (name :: done) mergeNode name
        | none => applyEntries fields fuel rest s merged done mergeNode name

/-- The anchored node an alias stands for. -/
def target (n : Node) : Dec Node := do
  match n with
  | .alias _ t _ => return (← get).anchored.getD t Node.empty
  | _ => return n

/-- Whether a merge value (or an item of one) is, or stands for, a mapping. -/
def mergeable (n : Node) : Dec Bool := do
  match ← target n with
  | .mapping _ _ => return true
  | _ => return false

/-- The failure of a merge whose value is not a mapping or a sequence of mappings. -/
def wantMap : String := "map merge requires map or sequence of maps as the value"

/-- Whether the keys of a mapping are all tagged as text or as the merge key, an alias's key by
the node it stands for: such a mapping reads as a map from text. -/
def textKeyed (entries : List (Node × Node)) : Dec Bool := do
  let tags ← entries.mapM fun (k, _) => do pure (tagOf (← target k))
  return tags.all fun t => t = strTag || t = mergeTag

mutual

/-- Reads a node without a target type, counting it and reading an alias as the node it
stands for; whether it gave a value. A mapping with a key given twice gives none. -/
def looseThrough : Nat → Node → Dec (Loose × Bool)
  | 0, _ => fail "decoder ran out of fuel"
  | fuel + 1, n => do
    countRead
    let s ← get
    match n with
    | .alias name target occurrence =>
      if s.expanding.contains occurrence then
        fail ("anchor '" ++ name ++ "' value contains itself")
      else
        set { s with expanding := occurrence :: s.expanding, aliasDepth := s.aliasDepth + 1 }
        let r ← looseThrough fuel (s.anchored.getD target Node.empty)
        modify fun s =>
          { s with expanding := s.expanding.erase occurrence, aliasDepth := s.aliasDepth - 1 }
        return r
    | .scalar tag text _ =>
      let (t, v) ← readScalar tag text
      return (.scalar (if t = timestampTag then .text text else v), true)
    | .sequence _ items => return (.list (← looseItems fuel items), true)
    | .mapping _ entries =>
      if repeatsKey entries then
        let _ ← mismatch ()
        return (.scalar .null, false)
      else
        let textKeys ← textKeyed entries
        return (.map textKeys (← looseMapping textKeys fuel entries []), true)

/-- The items of a sequence read without a target type; an item that gives no value is left
out. -/
def looseItems : Nat → List Node → Dec (List Loose)
  | 0, _ => fail "decoder ran out of fuel"
  | _, [] => pure []
  | fuel + 1, n :: ns => do
    let (v, good) ← looseThrough fuel n
    let vs ← looseItems fuel ns
    return (if good then v :: vs else vs)

/-- Reads the entries of a mapping into a map, after the entries `acc`, with keys of text
(`textKeys`) or of any kind; then merges its merge key's value into it. -/
def looseMapping (textKeys : Bool) : Nat → List (Node × Node) → List (Loose × Loose) →
    Dec (List (Loose × Loose))
  | 0, _, _ => fail "decoder ran out of fuel"
  | fuel + 1, entries, acc => do
    let saved := (← get).merged
    modify fun s => { s with merged := none }
    let (acc, kept, mergeNode) ← looseEntries textKeys fuel entries acc saved none
    modify fun s => { s with merged := kept }
    match mergeNode with
    | some m => looseMerge textKeys fuel entries m acc
    | none => return acc

/-- Reads entries into a map. While merging (`kept`), a key already kept is skipped and a new
one is kept; a key that cannot be hashed ends the run. A key that is a collection is refused
as a map key. Gives the map, the keys kept and the value of the merge key if there was one. -/
def looseEntries (textKeys : Bool) : Nat → List (Node × Node) → List (Loose × Loose) →
    Option (List Scalar) → Option Node →
      Dec (List (Loose × Loose) × Option (List Scalar) × Option Node)
  | 0, _, _, _, _ => fail "decoder ran out of fuel"
  | _, [], acc, kept, mergeNode => pure (acc, kept, mergeNode)
  | fuel + 1, (k, v) :: rest, acc, kept, mergeNode => do
    if isMerge k then looseEntries textKeys fuel rest acc kept (some v)
    else
      let (key, good) ← if textKeys then do
          let (t, good) ← unmarshal string fuel k ""
          pure (Loose.scalar (.text t), good)
        else looseThrough fuel k
      if !good then looseEntries textKeys fuel rest acc kept mergeNode
      else
        let seen ← match kept, key with
          | some ks, .scalar sv => pure (ks.any (Scalar.keyEq sv))
          | some _, other => throw (.unhashable other.typeName)
          | none, _ => pure false
        if seen then looseEntries textKeys fuel rest acc kept mergeNode
        else
          let kept := match key with
            | .scalar sv => kept.map (sv :: ·)
            | _ => kept
          match key with
          | .scalar _ =>
            let (value, good) ← looseThrough fuel v
            let acc := if good then acc ++ [(key, value)] else acc
            looseEntries textKeys fuel rest acc kept mergeNode
          | other => fail ("invalid map key: " ++ other.render)

/-- The keys of a mapping read without a target type into the set of keys a merge keeps; a
key that cannot be hashed ends the run. -/
def mergeKeys : Nat → List (Node × Node) → Dec Unit
  | 0, _ => fail "decoder ran out of fuel"
  | _, [] => pure ()
  | fuel + 1, (k, _) :: rest => do
    let (key, good) ← looseThrough fuel k
    if good then
      match key with
      | .scalar v => modify fun s => { s with merged := s.merged.map (v :: ·) }
      | other => throw (.unhashable other.typeName)
    mergeKeys fuel rest

/-- Merges the value of a merge key into a map read without a target type. -/
def looseMerge (textKeys : Bool) : Nat → List (Node × Node) → Node → List (Loose × Loose) →
    Dec (List (Loose × Loose))
  | 0, _, _, _ => fail "decoder ran out of fuel"
  | fuel + 1, parent, m, acc => do
    let saved := (← get).merged
    if saved.isNone then
      modify fun s => { s with merged := some [] }
      mergeKeys fuel parent
    let acc ← match m with
      | .mapping _ _ => looseMapThrough textKeys fuel m acc
      | .alias _ _ _ => do
        if !(← mergeable m) then fail wantMap
        looseMapThrough textKeys fuel m acc
      | .sequence _ items => looseMergeItems textKeys fuel items acc
      | _ => fail wantMap
    if saved.isNone then modify fun s => { s with merged := none }
    return acc

/-- Merges the mappings of a merge key's sequence, in order, into a map. -/
def looseMergeItems (textKeys : Bool) : Nat → List Node → List (Loose × Loose) →
    Dec (List (Loose × Loose))
  | 0, _, _ => fail "decoder ran out of fuel"
  | _, [], acc => pure acc
  | fuel + 1, n :: ns, acc => do
    if !(← mergeable n) then fail wantMap
    let acc ← looseMapThrough textKeys fuel n acc
    looseMergeItems textKeys fuel ns acc

/-- Reads a mapping, or an alias of one, into a map with keys of the given kind, counting it;
a mapping with a key given twice adds nothing. -/
def looseMapThrough (textKeys : Bool) : Nat → Node → List (Loose × Loose) →
    Dec (List (Loose × Loose))
  | 0, _, _ => fail "decoder ran out of fuel"
  | fuel + 1, n, acc => do
    countRead
    let s ← get
    match n with
    | .alias name target occurrence =>
      if s.expanding.contains occurrence then
        fail ("anchor '" ++ name ++ "' value contains itself")
      else
        set { s with expanding := occurrence :: s.expanding, aliasDepth := s.aliasDepth + 1 }
        let r ← looseMapThrough textKeys fuel (s.anchored.getD target Node.empty) acc
        modify fun s =>
          { s with expanding := s.expanding.erase occurrence, aliasDepth := s.aliasDepth - 1 }
        return r
    | .mapping _ entries =>
      if repeatsKey entries then
        let _ ← mismatch ()
        return acc
      else looseMapping textKeys fuel entries acc
    | _ =>
      let _ ← mismatch ()
      return acc

end

mutual

/-- Reads a node into a record, counting it and reading an alias as the node it stands for. -/
def recordThrough (fields : List (Field σ)) : Nat → Node → σ → Dec (σ × Bool)
  | 0, _, _ => fail "decoder ran out of fuel"
  | fuel + 1, n, out => do
    countRead
    let s ← get
    match n with
    | .alias name target occurrence =>
      if s.expanding.contains occurrence then
        fail ("anchor '" ++ name ++ "' value contains itself")
      set { s with expanding := occurrence :: s.expanding, aliasDepth := s.aliasDepth + 1 }
      let r ← recordThrough fields fuel (s.anchored.getD target Node.empty) out
      modify fun s =>
        { s with expanding := s.expanding.erase occurrence, aliasDepth := s.aliasDepth - 1 }
      return r
    | _ => record fields fuel n out

/-- A record read from a mapping: each key naming a field sets it, other keys are ignored, a
key given twice is a mismatch, and a merge key's mappings fill the fields left unset. -/
def record (fields : List (Field σ)) : Nat → Node → σ → Dec (σ × Bool)
  | 0, _, _ => fail "decoder ran out of fuel"
  | fuel + 1, .mapping _ entries, old => do
    if repeatsKey entries then
      let _ ← mismatch ()
      return (old, false)
    let saved := (← get).merged
    modify fun s => { s with merged := none }
    let (r, merged, mergeNode) ← applyEntries fields fuel entries old saved [] none ""
    modify fun s => { s with merged := merged }
    match mergeNode with
    | some m =>
      let r ← merge fields fuel entries m r
      return (r, true)
    | none => return (r, true)
  | _, .scalar tag text _, old => do
    match (← readScalar tag text) with
    | (_, .null) => return (old, false)
    | _ => mismatch old
  | _, _, old => mismatch old

/-- Merges the value of a merge key into a record. -/
def merge (fields : List (Field σ)) : Nat → List (Node × Node) → Node → σ → Dec σ
  | 0, _, _, _ => fail "decoder ran out of fuel"
  | fuel + 1, parent, m, r => do
    let saved := (← get).merged
    if saved.isNone then
      modify fun s => { s with merged := some [] }
      mergeKeys fuel parent
    let r ← match m with
      | .mapping _ _ => do
        let (r, _) ← recordThrough fields fuel m r
        pure r
      | .alias _ _ _ => do
        if !(← mergeable m) then fail wantMap
        let (r, _) ← recordThrough fields fuel m r
        pure r
      | .sequence _ items => mergeItems fields fuel items r
      | _ => fail wantMap
    if saved.isNone then modify fun s => { s with merged := none }
    return r

/-- Merges the mappings of a merge key's sequence, in order. -/
def mergeItems (fields : List (Field σ)) : Nat → List Node → σ → Dec σ
  | 0, _, _ => fail "decoder ran out of fuel"
  | _, [], r => pure r
  | fuel + 1, n :: ns, r => do
    if !(← mergeable n) then fail wantMap
    let (r, _) ← recordThrough fields fuel n r
    mergeItems fields fuel ns r

end

end Decoder

/-- The fuel for reading a document of a text of `size` characters. -/
def decodeFuel (size : Nat) : Nat := 4 * size + 64

/-- Why a document could not be read into a value. -/
inductive ReadFailure where
  /-- A failure that stopped the reading, with the library's message. -/
  | fatal (message : String)
  /-- Nodes that did not fit the values they were read into. -/
  | mismatch
  /-- A runtime panic, with the runtime's message. -/
  | panic (message : String)
  deriving DecidableEq, Repr

/-- The message of a text the reader refuses. -/
def refusedText : String := "yaml: control characters are not allowed"

/-- Reads the first document of a text into a value, starting from `init`. It fails on a text
the reader refuses (as far as the scanner read it before any syntax error), on a syntax
error, on a failure while reading nodes, and at the end on nodes that did not fit. -/
def readDocument (d : Decoder α) (init : α) (text : String) : Except ReadFailure α := do
  let cs := if text.isEmpty then ['\n'] else text.toList
  let (mark, cs) : Nat × List Char := match cs with
    | c :: r => if isByteOrderMark c then (3, r) else (0, c :: r)
    | [] => (0, [])
  match compose cs.toArray with
  | .error e =>
    if !readable mark e.demand cs then throw (.fatal refusedText)
    throw (.fatal e.message)
  | .ok (doc, demand) =>
    if !readable mark demand cs then throw (.fatal refusedText)
    match doc.root with
    | none => return init
    | some root =>
      let st : Decoding := ⟨doc.anchored, 1, 0, 0, [], none, 0⟩
      match (unmarshal d (decodeFuel cs.length) root init).run st with
      | .error (.failure m) => throw (.fatal ("yaml: " ++ m))
      | .error (.unhashable t) => throw (.panic ("runtime error: hash of unhashable type " ++ t))
      | .ok ((v, _), st) => if st.mismatches > 0 then throw .mismatch else return v

end Admission.Yaml
