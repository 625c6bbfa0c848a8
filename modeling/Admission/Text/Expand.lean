/-!
# Variable expansion

`${name}` and `$name` in a text are replaced by the value of the variable `name` (empty when
unset), the way a shell expands them:

* `$name` takes the longest run of letters, digits and underscores;
* a single special character (`*`, `#`, `$`, `@`, `!`, `?`, `-` or a digit) is a name by itself,
  after `$` or alone between braces;
* `${name}` takes everything up to the closing brace; `${}` is dropped, and an unclosed `${`
  drops just those two characters;
* a `$` that starts no name, or ends the text, stays as it is.
-/

namespace Admission.Expand

/-- Whether a character is a one-character special name. -/
def isSpecial (c : Char) : Bool := "*#$@!?-0123456789".toList.contains c

/-- Whether a character may be part of a plain name. -/
def isNameChar (c : Char) : Bool := c == '_' || c.isAlphanum && c.toNat < 128

/-- The name between braces, up to the first closing brace: none (dropping `${}` or `${`) when
it is empty or unclosed. -/
def bracedName (r : List Char) : Option String × List Char :=
  match r.findIdx? (· == '}') with
  | some 0 => (none, r.drop 1)
  | some i => (some (String.ofList (r.take i)), r.drop (i + 1))
  | none => (none, r)

/-- The name after a `$`, the text after it, and whether the syntax was valid; an invalid form
names nothing and is dropped. -/
def nameAfter (cs : List Char) : Option String × List Char :=
  match cs with
  | '{' :: r =>
    match r with
    | c :: '}' :: r' =>
      if isSpecial c then (some (String.singleton c), r') else bracedName r
    | _ => bracedName r
  | c :: r =>
    if isSpecial c then (some (String.singleton c), r)
    else
      let name := (c :: r).takeWhile isNameChar
      if name.isEmpty then (some "", c :: r)
      else (some (String.ofList name), (c :: r).drop name.length)
  | [] => (some "", [])

/-- Expands the variables in a text, with `lookup` giving each variable's value. -/
def expandList (lookup : String → String) : Nat → List Char → List Char
  | 0, cs => cs
  | fuel + 1, cs =>
    match cs with
    | [] => []
    | ['$'] => ['$']
    | '$' :: r =>
      match nameAfter r with
      | (none, rest) => expandList lookup fuel rest
      | (some "", rest) => '$' :: expandList lookup fuel rest
      | (some n, rest) => (lookup n).toList ++ expandList lookup fuel rest
    | c :: r => c :: expandList lookup fuel r

/-- Expands the variables in a text. -/
def expand (lookup : String → String) (s : String) : String :=
  String.ofList (expandList lookup (s.length + 1) s.toList)

end Admission.Expand
