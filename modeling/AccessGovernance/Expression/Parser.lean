import AccessGovernance.Expression.Tokens

/-! # From tokens to expressions

The grammar, from the loosest to the tightest level: disjunctions, conjunctions, comparisons,
negations, and primary expressions with selections after them. Disjunctions and conjunctions
associate to the left, and comparisons do not chain. A selection with arguments is a call with the
selected expression as its first argument.

Each level takes an expression off the front of the tokens and gives back the tokens that follow it,
which are fewer. Further operands and selections may be absent, so that no token is taken.
-/

namespace AccessGovernance

namespace Expression

/-- What was read from the front of some tokens, and what follows: fewer than `bound` tokens. -/
structure Taken (α : Type) (bound : Nat) where
  value : α
  rest : List Token
  fewer : rest.length < bound

abbrev Reading (α : Type) (bound : Nat) :=
  Except Malformation (Taken α bound)

namespace Taken

def weaken {α : Type} {m n : Nat} (t : Taken α m) (h : m ≤ n) : Taken α n :=
  ⟨t.value, t.rest, Nat.lt_of_lt_of_le t.fewer h⟩

end Taken

/-- The path with one more key; nothing, if the expression is no path. -/
def select? (name : String) : Expression → Option Expression
  | .path first rest => some (.path first (rest ++ [name]))
  | _ => none

def comparing? : List Token → Option Operator
  | .operator op :: _ => if op = .and ∨ op = .or then none else some op
  | _ => none

mutual

/-- Conjunctions with `||` between them. -/
def disjunction (tokens : List Token) : Reading Expression tokens.length := do
  let left ← conjunction tokens
  have := left.fewer
  let all ← moreDisjuncts left.value left.rest
  return all.weaken (by omega)
termination_by 8 * tokens.length + 5

def moreDisjuncts (left : Expression) (tokens : List Token) :
    Reading Expression (tokens.length + 1) :=
  match tokens with
  | .operator .or :: tail => do
      let right ← conjunction tail
      have := right.fewer
      let all ← moreDisjuncts (.binary .or left right.value) right.rest
      return all.weaken (by simp only [List.length_cons]; omega)
  | rest => return ⟨left, rest, Nat.lt_succ_self _⟩
termination_by 8 * tokens.length + 4

/-- Comparisons with `&&` between them. -/
def conjunction (tokens : List Token) : Reading Expression tokens.length := do
  let left ← comparison tokens
  have := left.fewer
  let all ← moreConjuncts left.value left.rest
  return all.weaken (by omega)
termination_by 8 * tokens.length + 3

def moreConjuncts (left : Expression) (tokens : List Token) :
    Reading Expression (tokens.length + 1) :=
  match tokens with
  | .operator .and :: tail => do
      let right ← comparison tail
      have := right.fewer
      let all ← moreConjuncts (.binary .and left right.value) right.rest
      return all.weaken (by simp only [List.length_cons]; omega)
  | rest => return ⟨left, rest, Nat.lt_succ_self _⟩
termination_by 8 * tokens.length + 2

/-- One negation, or two with a comparing operator between them. -/
def comparison (tokens : List Token) : Reading Expression tokens.length := do
  let left ← negation tokens
  have := left.fewer
  match comparing? left.rest with
  | some op => do
      have : left.rest.tail.length < tokens.length := by rw [List.length_tail]; omega
      let right ← negation left.rest.tail
      return ⟨.binary op left.value right.value, right.rest, by have := right.fewer; omega⟩
  | none => return left
termination_by 8 * tokens.length + 2

/-- A primary expression with any number of `!` before it. -/
def negation (tokens : List Token) : Reading Expression tokens.length :=
  match tokens with
  | .not :: tail => do
      let operand ← negation tail
      return ⟨.not operand.value, operand.rest, Nat.lt_succ_of_lt operand.fewer⟩
  | tokens => primary tokens
termination_by 8 * tokens.length + 1

/-- A literal, a list, a path, a call or an expression in parentheses. Selections may follow
strings, calls, paths and parentheses. -/
def primary (tokens : List Token) : Reading Expression tokens.length :=
  match tokens with
  | .number n :: tail => return ⟨.literal (.number n), tail, Nat.lt_succ_self _⟩
  | .string s :: tail => selections (.literal (.string s)) tail
  | .identifier name :: tail =>
      if name = "true" then return ⟨.literal (.bool true), tail, Nat.lt_succ_self _⟩
      else if name = "false" then return ⟨.literal (.bool false), tail, Nat.lt_succ_self _⟩
      else if name = "null" then return ⟨.literal .null, tail, Nat.lt_succ_self _⟩
      else if tail.head? = some .openParen then do
        let args ← arguments .closeParen tail.tail
        have := args.fewer
        have := tail.length_tail
        let all ← selections (.call name args.value) args.rest
        return all.weaken (by simp only [List.length_cons]; omega)
      else selections (.path name []) tail
  | .openBracket :: tail => do
      let items ← arguments .closeBracket tail
      return ⟨.list items.value, items.rest, Nat.lt_succ_of_lt items.fewer⟩
  | .openParen :: tail => do
      let inner ← disjunction tail
      have := inner.fewer
      have := inner.rest.length_tail
      if inner.rest.head? = some .closeParen then do
        let all ← selections inner.value inner.rest.tail
        return all.weaken (by simp only [List.length_cons]; omega)
      else throw (.expectedToken .closeParen inner.rest.head?)
  | rest => throw (.unexpectedToken rest.head?)
termination_by 8 * tokens.length + 0

/-- Selections after an expression, each a dot and a name, perhaps with arguments. -/
def selections (receiver : Expression) (tokens : List Token) :
    Reading Expression (tokens.length + 1) :=
  match tokens with
  | .dot :: .identifier name :: tail =>
      if tail.head? = some .openParen then do
        let args ← arguments .closeParen tail.tail
        have := args.fewer
        have := tail.length_tail
        let all ← selections (.call name (receiver :: args.value)) args.rest
        return all.weaken (by simp only [List.length_cons]; omega)
      else
        match select? name receiver with
        | some selected => do
            let all ← selections selected tail
            return all.weaken (by simp only [List.length_cons]; omega)
        | none => throw (.cannotSelect name)
  | .dot :: _ => throw .expectedIdentifier
  | rest => return ⟨receiver, rest, Nat.lt_succ_self _⟩
termination_by 8 * tokens.length + 0

/-- Expressions with commas between them, up to and including the closing token. -/
def arguments (close : Token) (tokens : List Token) : Reading (List Expression) tokens.length :=
  match tokens with
  | token :: tail =>
      if token = close then return ⟨[], tail, Nat.lt_succ_self _⟩ else items close (token :: tail)
  | [] => items close []
termination_by 8 * tokens.length + 7

/-- At least one expression, and the closing token. -/
def items (close : Token) (tokens : List Token) : Reading (List Expression) tokens.length := do
  let item ← disjunction tokens
  have := item.fewer
  have := item.rest.length_tail
  if item.rest.head? = some .comma then do
    let more ← items close item.rest.tail
    return ⟨item.value :: more.value, more.rest, by have := more.fewer; omega⟩
  else if item.rest.head? = some close then
    return ⟨[item.value], item.rest.tail, by omega⟩
  else throw (.expectedCommaOr close item.rest.head?)
termination_by 8 * tokens.length + 6

end

def ofTokens (tokens : List Token) : Except Malformation Expression :=
  if tokens = [] then .error .empty
  else do
    let all ← disjunction tokens
    match all.rest with
    | [] => return all.value
    | token :: _ => throw (.trailingToken token)

def ofText (s : String) : Except Malformation Expression := do
  ofTokens (← tokenize s.toList)

end Expression

end AccessGovernance
