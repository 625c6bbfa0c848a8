/-!
# JSON values

A JSON document as a tree. A number keeps the literal text it was read from or written as, so
that each reader decides how strictly to take it: an integer field refuses `1.0` and `1e2`,
while a float field takes both. An object keeps its members in the order written, duplicates
included, because a typed reader lets a later member overwrite an earlier one.
-/

namespace Admission

/-- A JSON value. -/
inductive Json where
  /-- `null`. -/
  | null
  /-- `true` or `false`. -/
  | bool (b : Bool)
  /-- A number, as its literal text (`-12`, `0.5`, `1e+21`). -/
  | number (literal : String)
  /-- A string, unescaped. -/
  | string (s : String)
  /-- An array, in order. -/
  | array (items : List Json)
  /-- An object, its members in the order written. -/
  | object (members : List (String × Json))
  deriving Inhabited, Repr

namespace Json

/-- The number written as the decimal digits of an integer. -/
def int (n : Int) : Json := .number (toString n)

/-- An integer, or `null` when absent. -/
def intOpt : Option Int → Json
  | some n => int n
  | none => .null

/-- A string, or `null` when absent. -/
def stringOpt : Option String → Json
  | some s => .string s
  | none => .null

/-- An array of strings. -/
def strings (xs : List String) : Json := .array (xs.map .string)

/-- The object `{"ok":true}` that acknowledges a step with nothing to report. -/
def ok : Json := .object [("ok", .bool true)]

/-- The members of an object; nothing for any other value. -/
def members : Json → List (String × Json)
  | .object ms => ms
  | _ => []

/-- The object with one more member at its end. -/
def push (j : Json) (k : String) (v : Json) : Json :=
  .object (j.members ++ [(k, v)])

/-- The object without the members named `k`. -/
def erase (j : Json) (k : String) : Json :=
  .object (j.members.filter (fun m => m.1 != k))

/-- The value of the last member named exactly `k`. -/
def get? (j : Json) (k : String) : Option Json :=
  (j.members.filter (fun m => m.1 == k)).getLast?.map Prod.snd

/-- The items of an array; nothing for any other value. -/
def items : Json → List Json
  | .array xs => xs
  | _ => []

end Json

end Admission
