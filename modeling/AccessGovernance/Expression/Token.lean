import AccessGovernance.Expression.Basic
import AccessGovernance.Json.Printer
import AccessGovernance.Text.Quoted

/-! # Tokens of expressions -/

namespace AccessGovernance

namespace Expression

inductive Token
  | identifier (name : String)
  | number (n : Number)
  | string (s : String)
  | operator (op : Operator)
  | not
  | dot
  | comma
  | openParen
  | closeParen
  | openBracket
  | closeBracket
deriving DecidableEq

namespace Token

def description : Token → String
  | identifier name => "Ident(" ++ Text.quoted name ++ ")"
  | number n => "Number(Number(" ++ String.ofList (Json.numberText n) ++ "))"
  | string s => "Str(" ++ Text.quoted s ++ ")"
  | operator op => "Op(" ++ op.name ++ ")"
  | not => "Not"
  | dot => "Dot"
  | comma => "Comma"
  | openParen => "LParen"
  | closeParen => "RParen"
  | openBracket => "LBracket"
  | closeBracket => "RBracket"

/-- How messages call a token where the text may have ended. -/
def found : Option Token → String
  | some t => "Some(" ++ t.description ++ ")"
  | none => "None"

end Token

end Expression

end AccessGovernance
