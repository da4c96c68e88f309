import AccessGovernance.Json.Value

/-! # Expressions

Boolean expressions over a context that is a JSON object: comparisons, membership in lists, the
connectives, paths into the context, literals, lists and function calls.
-/

namespace AccessGovernance

namespace Expression

inductive Operator
  | eq
  | ne
  | gt
  | lt
  | ge
  | le
  | and
  | or
  | isIn
deriving DecidableEq

def Operator.symbol : Operator → String
  | eq => "=="
  | ne => "!="
  | gt => ">"
  | lt => "<"
  | ge => ">="
  | le => "<="
  | and => "&&"
  | or => "||"
  | isIn => "in"

def Operator.name : Operator → String
  | eq => "Eq"
  | ne => "Ne"
  | gt => "Gt"
  | lt => "Lt"
  | ge => "Ge"
  | le => "Le"
  | and => "And"
  | or => "Or"
  | isIn => "In"

inductive Literal
  | number (n : Number)
  | string (s : String)
  | bool (b : Bool)
  | null
deriving DecidableEq

def Literal.value : Literal → Json
  | number n => .number n
  | string s => .string s
  | bool b => .bool b
  | null => .null

end Expression

inductive Expression
  | literal (l : Expression.Literal)
  /-- The value at a key of the context, at a key of that value, and so on. -/
  | path (first : String) (rest : List String)
  | list (items : List Expression)
  | not (operand : Expression)
  | binary (op : Expression.Operator) (left right : Expression)
  | call (function : String) (args : List Expression)

end AccessGovernance
