import AccessGovernance.Number.Binary64

/-! # Decimal numbers

A decimal number is an integer times a power of ten, with a sign that zero may have too. It is read
from text and rounded to the nearest double.
-/

namespace AccessGovernance

structure Decimal where
  negative : Bool
  coefficient : Nat
  exponent : Int
deriving DecidableEq

namespace Decimal

/-- The nearest double, unless it lies past the finite ones. Whether the number is too large or too
small is seen from its count of digits before a power of ten is computed. -/
def toBinary64? (d : Decimal) : Option Binary64 :=
  let magnitude : Int := (decimalDigits d.coefficient).length + d.exponent
  if d.coefficient = 0 ∨ magnitude < -400 then some (.zero d.negative)
  else if 400 < magnitude then none
  else
    Binary64.ofRatio? d.negative (d.coefficient * powerOfTen d.exponent.toNat)
      (powerOfTen (-d.exponent).toNat)

def ofParts? (negative : Bool) (whole fraction : List Char) (exponent : Int) : Option Decimal :=
  (natOfDigits? 10 (whole ++ fraction)).map fun n => ⟨negative, n, exponent - fraction.length⟩

def exponentOfText? : List Char → Option Int
  | [] => some 0
  | c :: rest => if c = 'e' ∨ c = 'E' then intOfText? rest else none

/-- Reads digits with at most one point among or beside them, and an exponent after them. -/
def ofUnsigned? (negative : Bool) (s : List Char) : Option Decimal :=
  let whole := s.takeWhile Char.isDigit
  match s.dropWhile Char.isDigit with
  | '.' :: rest =>
      (exponentOfText? (rest.dropWhile Char.isDigit)).bind
        (ofParts? negative whole (rest.takeWhile Char.isDigit))
  | rest => (exponentOfText? rest).bind (ofParts? negative whole [])

def ofText? : List Char → Option Decimal
  | '-' :: s => ofUnsigned? true s
  | '+' :: s => ofUnsigned? false s
  | s => ofUnsigned? false s

end Decimal

inductive ExtendedBinary64
  | finite (x : Binary64)
  | infinite (negative : Bool)
  | notANumber
deriving DecidableEq

namespace ExtendedBinary64

/-- The double nearest to a decimal number, infinite past the finite ones. -/
def ofDecimal (d : Decimal) : ExtendedBinary64 :=
  match d.toBinary64? with
  | some x => finite x
  | none => infinite d.negative

def ofWord? (negative : Bool) (s : List Char) : Option ExtendedBinary64 :=
  let word := String.ofList (s.map Char.toLower)
  if word = "inf" ∨ word = "infinity" then some (infinite negative)
  else if word = "nan" then some notANumber
  else none

def ofText? (s : List Char) : Option ExtendedBinary64 :=
  let word :=
    match s with
    | '-' :: r => ofWord? true r
    | '+' :: r => ofWord? false r
    | r => ofWord? false r
  word.or ((Decimal.ofText? s).map ofDecimal)

end ExtendedBinary64

end AccessGovernance
