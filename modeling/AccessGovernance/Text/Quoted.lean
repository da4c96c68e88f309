import AccessGovernance.Text.PrintableTable

/-! # Quoted text

A text in quotes for messages, in which every character can be told from every other: quotes,
backslashes and line controls are escaped by a letter, and characters that leave no mark of their
own are named by their code point.
-/

namespace AccessGovernance.Text

def isPrintable (c : Char) : Bool :=
  !unprintableRanges.contains c.toNat

def extendsGrapheme (c : Char) : Bool :=
  graphemeExtendRanges.contains c.toNat

def quotedChar (c : Char) : List Char :=
  if c = '\x00' then ['\\', '0']
  else if c = '\t' then ['\\', 't']
  else if c = '\n' then ['\\', 'n']
  else if c = '\r' then ['\\', 'r']
  else if c = '"' then ['\\', '"']
  else if c = '\\' then ['\\', '\\']
  else if extendsGrapheme c || !isPrintable c then
    '\\' :: 'u' :: '\x7b' :: Nat.toDigits 16 c.toNat ++ ['\x7d']
  else [c]

def quoted (s : String) : String :=
  String.ofList ('"' :: s.toList.flatMap quotedChar ++ ['"'])

end AccessGovernance.Text
