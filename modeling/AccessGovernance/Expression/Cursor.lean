import AccessGovernance.Expression.Parser

/-! # Parsing by position

The parser with a cursor: the tokens stay where they are, and a position goes through them. Reading
a token advances the position even where there is none, and an error leaves it where it is.

Calls may be nested as deep as a clock allows, whatever tokens are left. That a clock with a turn
for each token is enough, and the outcome that of the parser, is a theorem.
-/

namespace AccessGovernance

namespace Expression

namespace Cursor

/-- A run from a position comes to a value or an error and leaves a position in either case, or it
comes to nothing because the clock has run out. -/
abbrev Run (α : Type) :=
  ExceptT Malformation (StateT Nat Option) α

def peek? (tokens : List Token) : Run (Option Token) := do
  return tokens[(← get)]?

def advance : Run Unit :=
  modify fun position => position + 1

/-- The token at the position, if there is one. The position advances in any case. -/
def next? (tokens : List Token) : Run (Option Token) := do
  let token ← peek? tokens
  advance
  return token

def expect (tokens : List Token) (expected : Token) : Run Unit := do
  let token ← next? tokens
  if token = some expected then return
  else throw (.expectedToken expected token)

/-- Takes a turn off the clock. Every further round of a loop is a turn, and so is every call of `!`
for itself and every call for what stands in parentheses or brackets. -/
def turn {α : Type} (clock : Nat) (next : (left : Nat) → left < clock → Run α) : Run α :=
  match clock with
  | 0 => fun _ => none
  | left + 1 => next left (Nat.lt_succ_self left)

mutual

def disjunction (tokens : List Token) (clock : Nat) : Run Expression := do
  let left ← conjunction tokens clock
  moreDisjuncts tokens clock left
termination_by 8 * clock + 5

def moreDisjuncts (tokens : List Token) (clock : Nat) (left : Expression) : Run Expression := do
  if (← peek? tokens) = some (.operator .or) then
    turn clock fun clock _ => do
      advance
      let right ← conjunction tokens clock
      moreDisjuncts tokens clock (.binary .or left right)
  else return left
termination_by 8 * clock + 4

def conjunction (tokens : List Token) (clock : Nat) : Run Expression := do
  let left ← comparison tokens clock
  moreConjuncts tokens clock left
termination_by 8 * clock + 4

def moreConjuncts (tokens : List Token) (clock : Nat) (left : Expression) : Run Expression := do
  if (← peek? tokens) = some (.operator .and) then
    turn clock fun clock _ => do
      advance
      let right ← comparison tokens clock
      moreConjuncts tokens clock (.binary .and left right)
  else return left
termination_by 8 * clock + 3

def comparison (tokens : List Token) (clock : Nat) : Run Expression := do
  let left ← negation tokens clock
  match comparing? (← peek? tokens).toList with
  | some op => do
      advance
      let right ← negation tokens clock
      return .binary op left right
  | none => return left
termination_by 8 * clock + 3

def negation (tokens : List Token) (clock : Nat) : Run Expression := do
  if (← peek? tokens) = some .not then
    turn clock fun clock _ => do
      advance
      let operand ← negation tokens clock
      return .not operand
  else primary tokens clock
termination_by 8 * clock + 2

def primary (tokens : List Token) (clock : Nat) : Run Expression := do
  match ← next? tokens with
  | some (.number n) => return .literal (.number n)
  | some (.string s) => selections tokens clock (.literal (.string s))
  | some (.identifier name) =>
      if name = "true" then return .literal (.bool true)
      else if name = "false" then return .literal (.bool false)
      else if name = "null" then return .literal .null
      else if (← peek? tokens) = some .openParen then
        turn clock fun clock _ => do
          advance
          let args ← arguments tokens clock .closeParen
          selections tokens clock (.call name args)
      else selections tokens clock (.path name [])
  | some .openBracket =>
      turn clock fun clock _ => do
        let items ← arguments tokens clock .closeBracket
        return .list items
  | some .openParen =>
      turn clock fun clock _ => do
        let inner ← disjunction tokens clock
        expect tokens .closeParen
        selections tokens clock inner
  | token => throw (.unexpectedToken token)
termination_by 8 * clock + 1

def selections (tokens : List Token) (clock : Nat) (receiver : Expression) : Run Expression := do
  if (← peek? tokens) = some .dot then
    turn clock fun clock _ => do
      advance
      match ← next? tokens with
      | some (.identifier name) =>
          if (← peek? tokens) = some .openParen then do
            advance
            let args ← arguments tokens clock .closeParen
            selections tokens clock (.call name (receiver :: args))
          else
            match select? name receiver with
            | some selected => selections tokens clock selected
            | none => throw (.cannotSelect name)
      | _ => throw .expectedIdentifier
  else return receiver
termination_by 8 * clock + 0

def arguments (tokens : List Token) (clock : Nat) (close : Token) : Run (List Expression) := do
  if (← peek? tokens) = some close then
    advance
    return []
  else items tokens clock close
termination_by 8 * clock + 7

def items (tokens : List Token) (clock : Nat) (close : Token) : Run (List Expression) := do
  let item ← disjunction tokens clock
  let token ← next? tokens
  if token = some .comma then
    turn clock fun clock _ => do
      let more ← items tokens clock close
      return item :: more
  else if token = some close then return [item]
  else throw (.expectedCommaOr close token)
termination_by 8 * clock + 6

end

/-- The tokens as one expression, after which the position has no token. -/
def ofTokens (tokens : List Token) (clock : Nat) : Run Expression :=
  if tokens = [] then throw .empty
  else do
    let e ← disjunction tokens clock
    match ← peek? tokens with
    | some token => throw (.trailingToken token)
    | none => return e

end Cursor

end Expression

end AccessGovernance
