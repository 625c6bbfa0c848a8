import Admission.Script.Basic
import Admission.Directory.Seed
import Admission.FileSystem

/-!
# The `seed_parse` and `seed_load` scripts

Seeds are read with the scripts' fixed environment: `ORACLE_TPD=5000`,
`ORACLE_STRATEGY=round_robin`, `ORACLE_ROUTER=7`, `ORACLE_NAME=chat model` and `ORACLE_EMPTY`
set and empty; every other variable is unset.

* `seed_parse {yaml}`: the seed, or `parse_error`, or `invalid_seed` with the message, or
  `panic` with the runtime's message when reading the text panicked.
* `seed_load {yaml | path}`: how many roles, routers and users a seed file holds. A path is
  read from the machine's files (`FileSystem.readFile`); one that cannot be read is
  `invalid_seed` with `read seed: <reason>`.
-/

namespace Admission.Script

open Directory

/-- The variables every script sees. -/
def fixedEnvironment : List (String × String) :=
  [("ORACLE_TPD", "5000"), ("ORACLE_STRATEGY", "round_robin"), ("ORACLE_ROUTER", "7"),
    ("ORACLE_NAME", "chat model"), ("ORACLE_EMPTY", "")]

/-- A variable's value in an environment, empty when unset. -/
def envValue (env : List (String × String)) (name : String) : String :=
  ((env.find? (fun kv => kv.1 == name)).map Prod.snd).getD ""

/-- The answer to a seed that cannot be read. -/
def seedError : SeedError → Json
  | .parse _ => .object [("error", .string "parse_error")]
  | .invalid m => .object [("error", .string "invalid_seed"), ("message", .string m)]
  | .panic m => .object [("error", .string "panic"), ("message", .string m)]

/-- `seed_parse {yaml}`. -/
def seedParse (j : Json) : Json := orBad do
  let y ← text j "yaml"
  match Seed.parse (envValue fixedEnvironment) y with
  | .ok s => pure s.toJson
  | .error e => pure (seedError e)

/-- `seed_load {yaml | path}`. -/
def seedLoad (j : Json) : Json := orBad do
  let y ← field j "yaml" (Reader.option Reader.string "") none
  let path ← text j "path"
  let content : Except String String := match y with
    | some y => .ok y
    | none => FileSystem.readFile path
  match content with
  | .error m => pure (seedError (.invalid ("read seed: " ++ m)))
  | .ok y =>
    match Seed.parse (envValue fixedEnvironment) y with
    | .ok s => pure (.object [("roles", .int s.roles.length), ("routers", .int s.routers.length),
        ("users", .int s.users.length)])
    | .error e => pure (seedError e)

end Admission.Script
