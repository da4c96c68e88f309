import AccessGovernance.Expression.Token

/-! # Errors in expressions and in the evaluation of checks -/

namespace AccessGovernance

namespace Expression

inductive Malformation
  | unterminatedString
  | invalidNumber (digits : String)
  | unexpectedCharacter (c : Char)
  /-- A character that is only allowed in pairs stands alone. -/
  | unpaired (c : Char)
  | empty
  | unexpectedToken (token : Option Token)
  | expectedToken (expected : Token) (token : Option Token)
  | expectedCommaOr (close : Token) (token : Option Token)
  | expectedIdentifier
  | cannotSelect (name : String)
  | trailingToken (token : Token)
  | notBooleanOperand (symbol : String)
  | notStringArgument (function : String)
  | notListOperand
  | notComparable
  | notSizeable
  | wrongArgumentCount (function : String)
  | unknownFunction (function : String)
deriving DecidableEq

def Malformation.message : Malformation → String
  | unterminatedString => "unterminated string literal"
  | invalidNumber digits => "invalid number `" ++ digits ++ "`"
  | unexpectedCharacter c => "unexpected character `" ++ String.ofList [c] ++ "`"
  | unpaired c => "expected `" ++ String.ofList [c, c] ++ "`"
  | empty => "empty expression"
  | unexpectedToken token => "unexpected token: " ++ Token.found token
  | expectedToken expected token =>
      "expected " ++ expected.description ++ ", found " ++ Token.found token
  | expectedCommaOr close token =>
      "expected `,` or " ++ close.description ++ ", found " ++ Token.found token
  | expectedIdentifier => "expected identifier after `.`"
  | cannotSelect name => "cannot select `" ++ name ++ "` here"
  | trailingToken token => "unexpected trailing token: " ++ token.description
  | notBooleanOperand symbol => "`" ++ symbol ++ "` requires boolean operands"
  | notStringArgument function => "`" ++ function ++ "` requires string arguments"
  | notListOperand => "`in` requires a list on the right side"
  | notComparable => "comparison requires two numbers or two strings"
  | notSizeable => "`size` requires a string or list"
  | wrongArgumentCount function => "wrong number of arguments for `" ++ function ++ "`"
  | unknownFunction function => "unknown function `" ++ function ++ "`"

end Expression

inductive EvaluationError
  | missingInput (name : String)
  | invalidInput (name reason : String)
  | malformed (cause : Expression.Malformation)
  /-- The expression has a value that is not a boolean, given in its JSON form. -/
  | notBoolean (value : String)
deriving DecidableEq

namespace EvaluationError

def message : EvaluationError → String
  | missingInput name => "Missing required input `" ++ name ++ "`"
  | invalidInput name reason => "Invalid value for input `" ++ name ++ "`: " ++ reason
  | malformed cause => "Malformed expression: " ++ cause.message
  | notBoolean value => "Expression must evaluate to a boolean, got " ++ value

def code : EvaluationError → String
  | missingInput _ => "jitaccess::constraint::missing_input"
  | invalidInput .. => "jitaccess::constraint::invalid_input"
  | malformed _ => "jitaccess::constraint::malformed"
  | notBoolean _ => "jitaccess::constraint::not_boolean"

def help : EvaluationError → Option String
  | malformed _ =>
      some ("Supported operators: ==, !=, >, <, >=, <=, &&, ||, !, in. Paths use dot notation " ++
        "(e.g. input.justification)")
  | _ => none

end EvaluationError

end AccessGovernance
