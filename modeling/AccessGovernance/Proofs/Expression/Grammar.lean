import AccessGovernance.Expression.Token

/-! # The grammar of expressions

A derivation says of which tokens an expression is made, without saying how it is found. In the
order of binding, from the loosest to the tightest:

    disjunction := conjunction | disjunction `||` conjunction
    conjunction := comparison | conjunction `&&` comparison
    comparison  := negation | negation operator negation
    negation    := primary | `!` negation
    primary     := number | word | `[` arguments `]` | selection
    selection   := string | name | name `(` arguments `)` | `(` disjunction `)`
                 | selection `.` name | selection `.` name `(` arguments `)`
    arguments   := nothing | items
    items       := disjunction | disjunction `,` items

The words `true`, `false` and `null` are no names at the beginning of a selection. A key can only
be selected from a path, which it extends.
-/

namespace AccessGovernance

namespace Expression

def comparisonOperators : List Operator :=
  [.eq, .ne, .lt, .le, .gt, .ge, .isIn]

theorem mem_comparisonOperators_iff {op : Operator} :
    op ∈ comparisonOperators ↔ op ≠ .and ∧ op ≠ .or := by
  cases op <;> decide

namespace Literal

/-- The literal that a word always stands for where an expression begins. -/
def ofWord? (word : String) : Option Literal :=
  if word = "true" then some (.bool true)
  else if word = "false" then some (.bool false)
  else if word = "null" then some .null
  else none

variable {word : String} {l : Literal}

theorem ofWord?_eq_some (h : ofWord? word = some l) :
    (word = "true" ∧ l = .bool true) ∨ (word = "false" ∧ l = .bool false) ∨
      (word = "null" ∧ l = .null) := by
  grind [ofWord?]

theorem ofWord?_eq_none_iff :
    ofWord? word = none ↔ word ≠ "true" ∧ word ≠ "false" ∧ word ≠ "null" := by
  grind [ofWord?]

end Literal

mutual

inductive IsDisjunction : List Token → Expression → Prop
  | single {ts : List Token} {e : Expression} (h : IsConjunction ts e) : IsDisjunction ts e
  | or {ls rs : List Token} {l r : Expression} (hl : IsDisjunction ls l)
      (hr : IsConjunction rs r) : IsDisjunction (ls ++ .operator .or :: rs) (.binary .or l r)

inductive IsConjunction : List Token → Expression → Prop
  | single {ts : List Token} {e : Expression} (h : IsComparison ts e) : IsConjunction ts e
  | and {ls rs : List Token} {l r : Expression} (hl : IsConjunction ls l)
      (hr : IsComparison rs r) : IsConjunction (ls ++ .operator .and :: rs) (.binary .and l r)

/-- Neither side of a comparison is a comparison, unless it stands in parentheses. -/
inductive IsComparison : List Token → Expression → Prop
  | single {ts : List Token} {e : Expression} (h : IsNegation ts e) : IsComparison ts e
  | compare {op : Operator} {ls rs : List Token} {l r : Expression}
      (hop : op ∈ comparisonOperators) (hl : IsNegation ls l) (hr : IsNegation rs r) :
      IsComparison (ls ++ .operator op :: rs) (.binary op l r)

inductive IsNegation : List Token → Expression → Prop
  | primary {ts : List Token} {e : Expression} (h : IsPrimary ts e) : IsNegation ts e
  | not {ts : List Token} {e : Expression} (h : IsNegation ts e) : IsNegation (.not :: ts) (.not e)

inductive IsPrimary : List Token → Expression → Prop
  | number (n : Number) : IsPrimary [.number n] (.literal (.number n))
  | word {word : String} {l : Literal} (h : Literal.ofWord? word = some l) :
      IsPrimary [.identifier word] (.literal l)
  | list {ts : List Token} {es : List Expression} (h : IsArguments ts es) :
      IsPrimary (.openBracket :: (ts ++ [.closeBracket])) (.list es)
  | selection {ts : List Token} {e : Expression} (h : IsSelection ts e) : IsPrimary ts e

inductive IsSelection : List Token → Expression → Prop
  | string (s : String) : IsSelection [.string s] (.literal (.string s))
  | path {name : String} (h : Literal.ofWord? name = none) :
      IsSelection [.identifier name] (.path name [])
  | call {name : String} {ts : List Token} {es : List Expression}
      (h : Literal.ofWord? name = none) (hs : IsArguments ts es) :
      IsSelection (.identifier name :: .openParen :: (ts ++ [.closeParen])) (.call name es)
  | parentheses {ts : List Token} {e : Expression} (h : IsDisjunction ts e) :
      IsSelection (.openParen :: (ts ++ [.closeParen])) e
  /-- The receiver may be a path in parentheses. -/
  | key {name : String} {ts : List Token} {first : String} {keys : List String}
      (h : IsSelection ts (.path first keys)) :
      IsSelection (ts ++ [.dot, .identifier name]) (.path first (keys ++ [name]))
  | method {name : String} {ts us : List Token} {e : Expression} {es : List Expression}
      (h : IsSelection ts e) (hs : IsArguments us es) :
      IsSelection (ts ++ .dot :: .identifier name :: .openParen :: (us ++ [.closeParen]))
        (.call name (e :: es))

inductive IsArguments : List Token → List Expression → Prop
  | none : IsArguments [] []
  | some {ts : List Token} {es : List Expression} (h : IsItems ts es) : IsArguments ts es

inductive IsItems : List Token → List Expression → Prop
  | last {ts : List Token} {e : Expression} (h : IsDisjunction ts e) : IsItems ts [e]
  | cons {ts us : List Token} {e : Expression} {es : List Expression} (h : IsDisjunction ts e)
      (hs : IsItems us es) : IsItems (ts ++ .comma :: us) (e :: es)

end

theorem IsSelection.isDisjunction {ts : List Token} {e : Expression} (h : IsSelection ts e) :
    IsDisjunction ts e :=
  .single (.single (.single (.primary (.selection h))))

end Expression

end AccessGovernance
