import AccessGovernance.Number.Digits

/-! # TOML strings

Strings in one or three quotes. In double quotes a backslash starts an escape; in three of them,
also a line that goes on: the backslash is dropped with all blanks and line ends after it. Single
quotes take everything as it stands. No control characters but tabs may occur, and line ends only
in three quotes.
-/

namespace AccessGovernance

namespace Toml

def isAllowed (c : Char) : Bool :=
  c = '\t' || (0x20 ≤ c.toNat && c.toNat ≠ 0x7F)

/-- The character with a hexadecimal number; surrogates are none. -/
def charOfHex? (digits : List Char) : Option Char :=
  (natOfDigits? 16 digits).bind fun n => if n.isValidChar then some (Char.ofNat n) else none

def simpleEscape? : Char → Option Char
  | 'b' => some '\x08'
  | 't' => some '\t'
  | 'n' => some '\n'
  | 'f' => some '\x0c'
  | 'r' => some '\r'
  | '"' => some '"'
  | '\\' => some '\\'
  | _ => none

def consRead (c : Option Char) (read : Option (List Char × List Char)) :
    Option (List Char × List Char) :=
  match c, read with
  | some c, some (s, rest) => some (c :: s, rest)
  | _, _ => none

def scanBasic : List Char → Option (List Char × List Char)
  | '"' :: rest => some ([], rest)
  | '\\' :: 'u' :: a :: b :: c :: d :: rest =>
      consRead (charOfHex? [a, b, c, d]) (scanBasic rest)
  | '\\' :: 'U' :: a :: b :: c :: d :: e :: f :: g :: h :: rest =>
      consRead (charOfHex? [a, b, c, d, e, f, g, h]) (scanBasic rest)
  | '\\' :: c :: rest => consRead (simpleEscape? c) (scanBasic rest)
  | c :: rest => if isAllowed c then consRead (some c) (scanBasic rest) else none
  | [] => none

def scanLiteral : List Char → Option (List Char × List Char)
  | '\'' :: rest => some ([], rest)
  | c :: rest => if isAllowed c then consRead (some c) (scanLiteral rest) else none
  | [] => none

def isLineEnd (s : List Char) : Bool :=
  match s.dropWhile fun c => c = ' ' || c = '\t' with
  | '\n' :: _ => true
  | '\r' :: '\n' :: _ => true
  | _ => false

/-- Reads up to three double quotes; up to two more before them belong to the string. Blanks and
line ends are skipped after a backslash at the end of a line. -/
def scanBasicLines (skipping : Bool) : List Char → Option (List Char × List Char)
  | '"' :: '"' :: '"' :: '"' :: '"' :: rest => some (['"', '"'], rest)
  | '"' :: '"' :: '"' :: '"' :: rest => some (['"'], rest)
  | '"' :: '"' :: '"' :: rest => some ([], rest)
  | '\\' :: 'u' :: a :: b :: c :: d :: rest =>
      consRead (charOfHex? [a, b, c, d]) (scanBasicLines false rest)
  | '\\' :: 'U' :: a :: b :: c :: d :: e :: f :: g :: h :: rest =>
      consRead (charOfHex? [a, b, c, d, e, f, g, h]) (scanBasicLines false rest)
  | '\\' :: c :: rest =>
      if isLineEnd (c :: rest) then
        if c = '\r' then
          match rest with
          | _ :: rest => scanBasicLines true rest
          | [] => none
        else scanBasicLines true rest
      else consRead (simpleEscape? c) (scanBasicLines false rest)
  | '\r' :: '\n' :: rest =>
      if skipping then scanBasicLines true rest
      else consRead (some '\n') (scanBasicLines false rest)
  | c :: rest =>
      if skipping && (c = ' ' || c = '\t' || c = '\n') then scanBasicLines true rest
      else if c = '\n' || isAllowed c then consRead (some c) (scanBasicLines false rest)
      else none
  | [] => none

/-- Reads up to three single quotes; up to two more before them belong to the string. -/
def scanLiteralLines : List Char → Option (List Char × List Char)
  | '\'' :: '\'' :: '\'' :: '\'' :: '\'' :: rest => some (['\'', '\''], rest)
  | '\'' :: '\'' :: '\'' :: '\'' :: rest => some (['\''], rest)
  | '\'' :: '\'' :: '\'' :: rest => some ([], rest)
  | '\r' :: '\n' :: rest => consRead (some '\n') (scanLiteralLines rest)
  | c :: rest =>
      if c = '\n' || isAllowed c then consRead (some c) (scanLiteralLines rest) else none
  | [] => none

def dropLineEnd : List Char → List Char
  | '\n' :: rest => rest
  | '\r' :: '\n' :: rest => rest
  | rest => rest

def scanLine : List Char → Option (List Char × List Char)
  | '"' :: rest => scanBasic rest
  | '\'' :: rest => scanLiteral rest
  | _ => none

def scanString : List Char → Option (List Char × List Char)
  | '"' :: '"' :: '"' :: rest => scanBasicLines false (dropLineEnd rest)
  | '\'' :: '\'' :: '\'' :: rest => scanLiteralLines (dropLineEnd rest)
  | rest => scanLine rest

end Toml

end AccessGovernance
