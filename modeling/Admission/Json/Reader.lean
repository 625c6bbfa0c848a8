import Admission.Json.Value

/-!
# Typed readers of JSON values

A reader updates a typed value from a JSON value, the way a typed record is filled in from a
document: each member of an object overwrites the field it names and leaves the others, so a
missing member keeps the field's zero value and a later member overwrites an earlier one. An
array is read item by item into the items already there, so a later member for a list of
records updates the records of an earlier one in place.
`null` leaves a plain field as it is and clears an optional one. A value of the wrong shape
fails the whole read.

Member names match field names exactly or up to case; case folding maps each letter to one
representative of its fold orbit, so the long s `ſ` matches `s` and the Kelvin sign matches
`k`, while the dotted capital `İ` and the dotless `ı`, alone in their orbits, match only
themselves.
-/

namespace Admission

/-- How a JSON value updates a typed value; `none` when the value has the wrong shape. -/
abbrev Reader (α : Type) := Json → α → Option α

namespace Reader

/-- The representative of a character's case-fold orbit, as member names are compared; only
the orbits holding an ASCII letter matter, since field names are ASCII. -/
def foldChar (c : Char) : Char :=
  if 'a' ≤ c ∧ c ≤ 'z' then Char.ofNat (c.toNat - 32)
  else if c.toNat == 0x17F then 'S'
  else if c.toNat == 0x212A then 'K'
  else c

/-- Whether a member name selects a field: equal up to case folding. -/
def nameMatches (field key : String) : Bool :=
  key.toList.map foldChar == field.toList.map foldChar

/-- Reads an integer literal of 64 bits: an optional `-` and decimal digits, in range. -/
def int64? (lit : String) : Option Int64 :=
  let (neg, ds) := match lit.toList with
    | '-' :: r => (true, r)
    | r => (false, r)
  if ds.isEmpty || !ds.all Char.isDigit then none
  else
    let n : Nat := ds.foldl (fun a c => a * 10 + (c.toNat - '0'.toNat)) 0
    let v : Int := if neg then -(n : Int) else n
    if -9223372036854775808 ≤ v ∧ v ≤ 9223372036854775807 then some (Int64.ofInt v) else none

/-- A 64-bit integer field. -/
def int64 : Reader Int64
  | .null, old => some old
  | .number lit, _ => int64? lit
  | _, _ => none

/-- A text field. -/
def string : Reader String
  | .null, old => some old
  | .string s, _ => some s
  | _, _ => none

/-- A truth-value field. -/
def bool : Reader Bool
  | .null, old => some old
  | .bool b, _ => some b
  | _, _ => none

/-- An optional field: `null` clears it, anything else fills it in, starting from `zero` when
it was empty. -/
def option (r : Reader α) (zero : α) : Reader (Option α)
  | .null, _ => some none
  | j, old => (r j (old.getD zero)).map some

/-- The items of an array, each read into the item already at its place, or into `zero` past
the end of the old items. -/
def itemsOf (r : Reader α) (zero : α) : List Json → List α → Option (List α)
  | [], _ => some []
  | j :: js, old => do
    let x ← r j (old.headD zero)
    let xs ← itemsOf r zero js old.tail
    pure (x :: xs)

/-- A list field: `null` empties it; an array gives as many items as it has, each read into
the item at its place, so that a second array under the same name updates the items of the
first rather than starting afresh. -/
def list (r : Reader α) (zero : α) : Reader (List α)
  | .null, _ => some []
  | .array js, old => itemsOf r zero js old
  | _, _ => none

/-- A reader that never fails: a value of the wrong shape leaves the value as it was, as a
decoder does that notes the mismatch and reads on. -/
def lenient (r : Reader α) : Reader α := fun j old => some ((r j old).getD old)

/-- A field of a record, through its getter and setter. -/
def field (get : σ → α) (set : σ → α → σ) (r : Reader α) : Reader σ :=
  fun j s => (r j (get s)).map (set s)

/-- The reader of the first field whose name a member name selects. -/
def select (fields : List (String × Reader σ)) (key : String) : Option (Reader σ) :=
  match fields.find? (fun f => f.1 == key) with
  | some f => some f.2
  | none => (fields.find? (fun f => nameMatches f.1 key)).map Prod.snd

/-- Applies an object's members in order; a member that names no field is skipped. -/
def applyMembers (fields : List (String × Reader σ)) : List (String × Json) → σ → Option σ
  | [], s => some s
  | (k, v) :: ms, s =>
    match select fields k with
    | some r => (r v s).bind (applyMembers fields ms)
    | none => applyMembers fields ms s

/-- A record read from an object, field by field. -/
def object (fields : List (String × Reader σ)) : Reader σ
  | .null, s => some s
  | .object ms, s => applyMembers fields ms s
  | _, _ => none

/-- Puts a key into an association list, keeping the place of a key already there. -/
def assocSet (m : List (String × α)) (k : String) (v : α) : List (String × α) :=
  if m.any (fun p => p.1 == k) then m.map (fun p => if p.1 == k then (k, v) else p)
  else m ++ [(k, v)]

/-- Adds an object's members to a map; each value is read into a fresh `zero`. -/
def mapMembers (r : Reader α) (zero : α) :
    List (String × Json) → List (String × α) → Option (List (String × α))
  | [], m => some m
  | (k, v) :: ms, m => do
    let x ← r v zero
    mapMembers r zero ms (assocSet m k x)

/-- A map field with text keys: `null` empties it, an object adds its members. -/
def map (r : Reader α) (zero : α) : Reader (List (String × α))
  | .null, _ => some []
  | .object ms, m => mapMembers r zero ms m
  | _, _ => none

/-- Reads a whole value from a zero value. -/
def run (r : Reader α) (zero : α) (j : Json) : Option α := r j zero

end Reader

end Admission
