import Admission.Json.Number
import Admission.Fault

/-!
# Scripts

A script is a JSON object that names an operation of the library and gives its inputs; its
answer is a JSON object. Fields are read as typed fields are (`Reader`): a missing field or
`null` gives the zero value, names match up to case, and a value of the wrong shape makes the
whole script unreadable, answered by `{"error":"bad_input"}`.

Stateful scripts carry a list of steps, each an object with a `do` field, and answer
`{"results":[...]}`, one answer per step.
-/

namespace Admission.Script

/-- The answer to a script that cannot be read. -/
def badInput : Json := .object [("error", .string "bad_input")]

/-- A field of a script, read from the zero value. -/
def field (j : Json) (name : String) (r : Reader α) (zero : α) : Option α :=
  Reader.object [(name, r)] j zero

/-- A text field. -/
def text (j : Json) (name : String) : Option String := field j name Reader.string ""

/-- A 64-bit integer field. -/
def int (j : Json) (name : String) : Option Int64 := field j name Reader.int64 0

/-- An optional 64-bit integer field. -/
def intOpt (j : Json) (name : String) : Option (Option Int64) :=
  field j name (Reader.option Reader.int64 0) none

/-- A truth-value field. -/
def flag (j : Json) (name : String) : Option Bool := field j name Reader.bool false

/-- A binary64 field. -/
def float (j : Json) (name : String) : Option Binary64 := field j name Reader.float Binary64.zero

/-- An optional binary64 field. -/
def floatOpt (j : Json) (name : String) : Option (Option Binary64) :=
  field j name (Reader.option Reader.float Binary64.zero) none

/-- A list-of-texts field. -/
def texts (j : Json) (name : String) : Option (List String) :=
  field j name (Reader.list Reader.string "") []

/-- A field kept as JSON, `null` when missing. -/
def raw (j : Json) (name : String) : Json :=
  (field j name (fun v _ => some v) Json.null).getD .null

/-- The steps of a stateful script: a list of objects, none when it is not a list. -/
def steps (j : Json) : Option (List Json) :=
  field j "steps" (Reader.list (fun v _ => some v) .null) []

/-- The `{"results":[...]}` answer. -/
def results (rs : List Json) : Json := .object [("results", .array rs)]

/-- A fault as an answer. -/
def fault (f : Fault) : Json := f.toJson

/-- An answer from a readable script, `bad_input` otherwise. -/
def orBad : Option Json → Json
  | some j => j
  | none => badInput

end Admission.Script
