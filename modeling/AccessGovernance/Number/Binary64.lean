import AccessGovernance.Number.Digits

/-! # Double-precision numbers

A finite double of the IEEE 754 format binary64 is its sign and its position: the doubles that are
not negative are counted upwards from zero, so that positions are ordered like values. A position
is also the bit pattern of the number below the sign. A quotient of integers is rounded to the
nearest double, and of two equally near ones to the one whose position is even.
-/

namespace AccessGovernance

/-- The count of doubles from a power of two up to the next. -/
def Binary64.binade : Nat :=
  0x10000000000000

/-- The first position that belongs to no finite double. -/
def Binary64.positionLimit : Nat :=
  0x7FF * binade

structure Binary64 where
  negative : Bool
  position : Nat
  finite : position < Binary64.positionLimit
deriving DecidableEq

namespace Binary64

def zero (negative : Bool) : Binary64 :=
  ⟨negative, 0, by decide⟩

/-- The integer that gives the number's magnitude when multiplied by `2 ^ exponent`. -/
def significand (x : Binary64) : Nat :=
  if x.position < binade then x.position else x.position % binade + binade

def exponent (x : Binary64) : Int :=
  if x.position < binade then -1074 else (x.position / binade : Nat) - 1075

def bits (x : Binary64) : Nat :=
  (if x.negative then 0x8000000000000000 else 0) + x.position

/-- The position with the sign of the number. Both zeros have the key zero. -/
def key (x : Binary64) : Int :=
  if x.negative then -(x.position : Int) else x.position

/-- The order of the values. The two zeros are equal. -/
def order (x y : Binary64) : Ordering :=
  compare x.key y.key

/-- The quotient rounded to an integer, an exact half to the even neighbour. -/
def roundHalfEven (num den : Nat) : Nat :=
  let q := num / den
  let r := num % den
  if 2 * r < den ∨ (2 * r = den ∧ q % 2 = 0) then q else q + 1

/-- The exponent of the double next to `num / den`, given that both are positive. -/
def exponentOfRatio (num den : Nat) : Int :=
  let l : Int := (Nat.log2 num : Int) - Nat.log2 den
  let reaches := den <<< l.toNat ≤ num <<< (-l).toNat
  max (-1074) (if reaches then l - 52 else l - 53)

/-- The position nearest to `num / den`, which may lie past the finite doubles. -/
def positionOfRatio (num den : Nat) : Nat :=
  if num = 0 then 0
  else
    let e := exponentOfRatio num den
    (e + 1074).toNat * binade + roundHalfEven (num <<< (-e).toNat) (den <<< e.toNat)

def ofRatio? (negative : Bool) (num den : Nat) : Option Binary64 :=
  if h : positionOfRatio num den < positionLimit then some ⟨negative, positionOfRatio num den, h⟩
  else none

def ofInt (n : Int) : Binary64 :=
  (ofRatio? (n < 0) n.natAbs 1).getD (zero (n < 0))

/-- The nearest natural number, a half rounded up; zero for a negative number. -/
def roundToNat (x : Binary64) : Nat :=
  if x.negative then 0
  else
    let num := x.significand <<< x.exponent.toNat
    let den := 1 <<< (-x.exponent).toNat
    (2 * num + den) / (2 * den)

end Binary64

end AccessGovernance
