import AccessGovernance.Json.Value
import AccessGovernance.Number.Shortest

/-! # JSON text

The compact form: no blanks, fields in ascending order of their keys, and in strings only what has
to be escaped.
-/

namespace AccessGovernance

namespace Json

/-- Doubles have a fraction, and an exponent below the fifth place or from the sixteenth on. Their
last digit is even where there is a choice. -/
def doubleLayout : DecimalLayout :=
  ⟨.toEven, fun e => -5 ≤ e && e < 16, ['.', '0']⟩

def numberText : Number → List Char
  | .integer n => decimalText n
  | .double x => doubleLayout.text x

def twoHexDigits (n : Nat) : List Char :=
  [Nat.digitChar (n / 16), Nat.digitChar (n % 16)]

def escaped (c : Char) : List Char :=
  if c = '"' then ['\\', '"']
  else if c = '\\' then ['\\', '\\']
  else if c = '\n' then ['\\', 'n']
  else if c = '\r' then ['\\', 'r']
  else if c = '\t' then ['\\', 't']
  else if c = '\x08' then ['\\', 'b']
  else if c = '\x0c' then ['\\', 'f']
  else if c.toNat < 0x20 then '\\' :: 'u' :: '0' :: '0' :: twoHexDigits c.toNat
  else [c]

def stringText (s : String) : List Char :=
  '"' :: s.toList.flatMap escaped ++ ['"']

mutual

def textChars : Json → List Char
  | null => "null".toList
  | bool b => (if b then "true" else "false").toList
  | number n => numberText n
  | string s => stringText s
  | array items => '[' :: itemsChars items
  | object fields => '\x7b' :: fieldsChars fields
termination_by structural a => a

def itemsChars : List Json → List Char
  | [] => [']']
  | [a] => textChars a ++ [']']
  | a :: rest => textChars a ++ ',' :: itemsChars rest
termination_by structural a => a

def fieldsChars : List (String × Json) → List Char
  | [] => ['\x7d']
  | [(k, a)] => stringText k ++ ':' :: textChars a ++ ['\x7d']
  | (k, a) :: rest => stringText k ++ ':' :: textChars a ++ ',' :: fieldsChars rest
termination_by structural a => a

end

def text (a : Json) : String :=
  String.ofList a.textChars

end Json

end AccessGovernance
