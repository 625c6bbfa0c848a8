import Admission.Script.Limiter
import Admission.Access.Checker

/-!
# The `checker` script

An access checker over a limiter on a fake clock (as in `ratelimit`) and a role resolver:
the roles given (`memory`, the default), no resolver (`none`), or one that always fails with
`resolver_error` (`error`). Steps: `check {identity, router, prompt_tokens}`, `advance {ns}`
and `reset`; any other step, the key-value server's own included, answers `bad_input`.
-/

namespace Admission.Script

open Quota Access

/-- The role with an id: the last one given. -/
def roleById (roles : List Role) (id : Int64) : Option Role :=
  roles.reverse.find? (fun r => r.id == id)

/-- A resolver over a fixed list of roles. -/
def rolesResolver (roles : List Role) : Resolver σ := fun id s =>
  match roleById roles id with
  | some r => (.ok r.limits, s)
  | none => (.error (.sentinel .roleNotFound), s)

/-- The resolver a `resolver` name picks. -/
def pickResolver (name message : String) (roles : List Role) : Option (Option (Resolver σ)) :=
  if name = "" || name = "memory" then some (some (rolesResolver roles))
  else if name = "none" then some none
  else if name = "error" then some (some fun _ s => (.error (.text message), s))
  else none

/-- A role-list field. -/
def roles (j : Json) (name : String) : Option (List Role) :=
  field j name (Reader.list Role.reader Role.zero) []

/-- An identity field. -/
def identity (j : Json) (name : String) : Option Identity := field j name Identity.reader Identity.zero

/-- A step of a `checker` script, its fields read as given. -/
structure CheckerStep where
  /-- What to do: `check`, `advance` or `reset`. -/
  action : String
  /-- The identity to check. -/
  identity : Identity
  /-- The router asked for. -/
  router : Int64
  /-- The prompt's tokens, if given. -/
  promptTokens : Option Int64
  /-- A clock step. -/
  ns : Int64

/-- Reads the fields of a checker step; none when one has the wrong shape. -/
def CheckerStep.read (s : Json) : Option CheckerStep := do
  let action ← text s "do"
  let who ← Script.identity s "identity"
  let router ← int s "router"
  let tokens ← intOpt s "prompt_tokens"
  let ns ← int s "ns"
  pure ⟨action, who, router, tokens, ns⟩

/-- Runs one step of a `checker` script; an unknown step answers `bad_input`. -/
def checkerStep (c : Checker) (backing : Backing) (resolver : Option (Resolver Bench))
    (b : Bench) (st : CheckerStep) : Json × Bench :=
  let ops := backing.ops false
  if st.action = "check" then
    let (r, b) := c.check ops resolver b.now st.identity st.router st.promptTokens b
    (answerOr r (fun _ => Json.ok), b)
  else if st.action = "advance" then (Json.ok, { b with now := b.now + st.ns.toInt })
  else if st.action = "reset" then
    let (r, b) := c.limiter.reset ops b.now b
    (answerOr r (fun _ => Json.ok), b)
  else (badInput, b)

/-- `checker {strategy, storage, master_user_id, resolver, resolver_error, roles, steps}`: a
step with a field of the wrong shape makes the whole script unreadable; the storage is
checked first, then the strategy, then the resolver. -/
def checker (j : Json) : Json := orBad do
  let strategy ← text j "strategy"
  let storage ← text j "storage"
  let master ← intOpt j "master_user_id"
  let resolverName ← text j "resolver"
  let message ← text j "resolver_error"
  let rs ← roles j "roles"
  let ss ← (← steps j).mapM CheckerStep.read
  let backing ← Backing.parse storage (if message.isEmpty then "store down" else message) true
  match WindowKind.parse (if strategy.isEmpty then "sliding_window" else strategy) with
  | .error f => pure (fault f)
  | .ok kind =>
    let resolver ← pickResolver resolverName message rs
    let c : Checker := ⟨⟨kind, "rl"⟩, master.getD 0⟩
    pure (results (runSteps (checkerStep c backing resolver) ss Bench.start).1)

end Admission.Script
