/-!
# Glob patterns

The key patterns of a key-value server: `*` matches any run of characters, `?` any one
character, `[...]` one character of a class (`^` first negates it, `a-z` is a range, `\`
takes the next character literally), and `\` before any other character matches that
character itself. Every other character matches only itself. A class left open runs to the
end of the pattern.

A pattern is first read into tokens (`Glob.compile`); `Glob.matchTokens` then decides a
match by recursion on the tokens and the text together: `*` either stops here or swallows one
more character.
-/

namespace Admission.Glob

/-- One member of a character class. -/
inductive ClassItem where
  /-- Exactly this character. -/
  | single (c : Char)
  /-- Every character between the two ends, in either order. -/
  | range (a b : Char)
  deriving DecidableEq, Repr

/-- Whether a class member admits a character. -/
def ClassItem.admits (c : Char) : ClassItem → Bool
  | .single d => c == d
  | .range a b => if a ≤ b then a ≤ c && c ≤ b else b ≤ c && c ≤ a

/-- One unit of a pattern. -/
inductive Token where
  /-- Any run of characters, the empty one included. -/
  | many
  /-- Any one character. -/
  | one
  /-- One character of a class, or outside it when negated. -/
  | oneOf (negated : Bool) (items : List ClassItem)
  /-- Exactly this character. -/
  | literal (c : Char)
  deriving DecidableEq, Repr

mutual

/-- The tokens of a pattern. -/
def compile : List Char → List Token
  | [] => []
  | '*' :: p => .many :: compile p
  | '?' :: p => .one :: compile p
  | '\\' :: d :: p => .literal d :: compile p
  | '[' :: '^' :: p => compileClass true [] p
  | '[' :: p => compileClass false [] p
  | d :: p => .literal d :: compile p

/-- The rest of a class whose members so far are `items` (reversed), then the tokens after
it. -/
def compileClass (negated : Bool) (items : List ClassItem) : List Char → List Token
  | [] => [.oneOf negated items.reverse]
  | ']' :: p => .oneOf negated items.reverse :: compile p
  | '\\' :: c :: p => compileClass negated (.single c :: items) p
  | a :: '-' :: b :: p => compileClass negated (.range a b :: items) p
  | c :: p => compileClass negated (.single c :: items) p

end

/-- Whether tokens match a whole text. -/
def matchTokens : List Token → List Char → Bool
  | [], s => s.isEmpty
  | .many :: p, s =>
    matchTokens p s ||
      (match s with
       | [] => false
       | _ :: s' => matchTokens (.many :: p) s')
  | .one :: p, s =>
    match s with
    | [] => false
    | _ :: s' => matchTokens p s'
  | .oneOf negated items :: p, s =>
    match s with
    | [] => false
    | c :: s' => (items.any (ClassItem.admits c) != negated) && matchTokens p s'
  | .literal d :: p, s =>
    match s with
    | [] => false
    | c :: s' => c == d && matchTokens p s'
termination_by p s => p.length + s.length

/-- Whether a pattern matches a whole text. -/
def accepts (pattern text : String) : Bool := matchTokens (compile pattern.toList) text.toList

end Admission.Glob
