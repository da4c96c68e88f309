import AccessGovernance.Expression.Error

/-! # The value of an expression

An expression is evaluated in a context, a JSON value. A path that leads nowhere is null. Numbers
are compared as doubles. The connectives look at their right operand only if the left one does not
decide, so errors in an operand that is not needed do not show.
-/

namespace AccessGovernance

namespace Expression

def follow (context : Json) : List String → Option Json
  | [] => some context
  | key :: rest => (context.get? key).bind fun value => follow value rest

/-- Two numbers are equal if their doubles are, other values if they are the same. -/
def valuesEqual (a b : Json) : Bool :=
  match a.number?, b.number? with
  | some m, some n => m.toBinary64.order n.toBinary64 = .eq
  | _, _ => a.same b

def compareValues (a b : Json) : Except Malformation Ordering :=
  match a, b with
  | .string s, .string t => .ok (compare s t)
  | .number m, .number n => .ok (m.toBinary64.order n.toBinary64)
  | _, _ => .error .notComparable

def asBool (op : String) : Json → Except Malformation Bool
  | .bool b => .ok b
  | _ => .error (.notBooleanOperand op)

def asString (function : String) : Json → Except Malformation String
  | .string s => .ok s
  | _ => .error (.notStringArgument function)

def applyOperator (op : Operator) (a b : Json) : Except Malformation Bool :=
  match op with
  | .eq => .ok (valuesEqual a b)
  | .ne => .ok !valuesEqual a b
  | .isIn =>
      match b with
      | .array items => .ok (items.any fun item => valuesEqual item a)
      | _ => .error .notListOperand
  | .gt => (compareValues a b).map Ordering.isGT
  | .lt => (compareValues a b).map Ordering.isLT
  | .ge => (compareValues a b).map Ordering.isGE
  | .le => (compareValues a b).map Ordering.isLE
  | .and | .or => .error (.notBooleanOperand op.symbol)

def occursIn (part : List Char) : List Char → Bool
  | [] => part = []
  | c :: rest => part.isPrefixOf (c :: rest) || occursIn part rest

/-- The number of characters or items; null has none. -/
def countOf : Json → Except Malformation Json
  | .string s => .ok (.integer s.toList.length)
  | .array items => .ok (.integer items.length)
  | .null => .ok (.integer 0)
  | _ => .error .notSizeable

def stringPredicate? (function : String) : Option (List Char → List Char → Bool) :=
  if function = "startsWith" then some fun s part => part.isPrefixOf s
  else if function = "endsWith" then some fun s part => part.isSuffixOf s
  else if function = "contains" then some fun s part => occursIn part s
  else none

def applyFunction (function : String) (args : List Json) : Except Malformation Json :=
  if function = "size" then
    match args with
    | [value] => countOf value
    | _ => .error (.wrongArgumentCount function)
  else
    match stringPredicate? function, args with
    | some p, [a, b] => do
        let s ← asString function a
        let part ← asString function b
        return .bool (p s.toList part.toList)
    | some _, _ => .error (.wrongArgumentCount function)
    | none, _ => .error (.unknownFunction function)

mutual

def value (context : Json) : Expression → Except Malformation Json
  | .literal l => .ok l.value
  | .path first rest => .ok ((follow context (first :: rest)).getD .null)
  | .list items => (values context items).map .array
  | .not operand => do
      let b ← asBool "!" (← value context operand)
      return .bool !b
  | .binary op left right => do
      let a ← value context left
      match op with
      | .and => do
          if ← asBool "&&" a then
            return .bool (← asBool "&&" (← value context right))
          else return .bool false
      | .or => do
          if ← asBool "||" a then return .bool true
          else return .bool (← asBool "||" (← value context right))
      | op => return .bool (← applyOperator op a (← value context right))
  | .call function args => do applyFunction function (← values context args)
termination_by structural e => e

/-- The values of expressions; of several errors the first counts. -/
def values (context : Json) : List Expression → Except Malformation (List Json)
  | [] => .ok []
  | e :: rest => do
      let a ← value context e
      let more ← values context rest
      return a :: more
termination_by structural es => es

end

def evaluate (e : Expression) (context : Json) : Except EvaluationError Bool :=
  match value context e with
  | .ok (.bool b) => .ok b
  | .ok other => .error (.notBoolean other.text)
  | .error cause => .error (.malformed cause)

end Expression

end AccessGovernance
