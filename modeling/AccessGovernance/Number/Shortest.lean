import AccessGovernance.Number.Binary64

/-! # The shortest decimal form of a double

Of the decimal numbers that round to a given double, the ones with the fewest digits are
candidates, and of these the one nearest to the double is its shortest form. A format says which
one that is where two of them are equally near. A decimal number with `n` digits that rounds to the
double exists iff one of the two multiples of the power of ten next to the double does, so it is
enough to try those for 1, 2, … 17 digits.
-/

namespace AccessGovernance

/-- Which of two adjacent multiples is taken for the number in the middle between them. -/
inductive Tie
  | toEven
  | awayFromZero
deriving DecidableEq

def Tie.takesLower (tie : Tie) (n : Nat) : Bool :=
  match tie with
  | toEven => n % 2 = 0
  | awayFromZero => false

namespace Binary64

/-- A number and the interval of the numbers that round to it, over one denominator. -/
structure Rounding where
  low : Nat
  value : Nat
  high : Nat
  den : Nat
  /-- Whether the ends of the interval round to the number too. -/
  closed : Bool

/-- The interval of a double that is not zero. It reaches half the distance to each neighbour, and
the distance below a power of two is half of that above. -/
def rounding (x : Binary64) : Rounding :=
  let m := x.significand
  let e := x.exponent - 2
  let unit := 1 <<< e.toNat
  let below := if x.position % binade = 0 ∧ binade < x.position then 1 else 2
  ⟨(4 * m - below) * unit, 4 * m * unit, (4 * m + 2) * unit, 1 <<< (-e).toNat, m % 2 = 0⟩

def Rounding.holds (r : Rounding) (n : Nat) (k : Int) : Bool :=
  let point := n * powerOfTen k.toNat * r.den
  let scale := powerOfTen (-k).toNat
  if r.closed then r.low * scale ≤ point && point ≤ r.high * scale
  else r.low * scale < point && point < r.high * scale

/-- The power of ten of the first digit of `value / den`. -/
def Rounding.magnitude (r : Rounding) : Int :=
  if r.den ≤ r.value then (decimalDigits (r.value / r.den)).length - 1
  else
    let d := (decimalDigits (r.den / r.value)).length
    if r.den ≤ r.value * powerOfTen (d - 1) then -((d : Int) - 1) else -(d : Int)

/-- The multiple of `10 ^ k` next to the number that rounds to it, and of two the nearer. -/
def Rounding.onGrid? (r : Rounding) (tie : Tie) (k : Int) : Option Nat :=
  let num := r.value * powerOfTen (-k).toNat
  let den := r.den * powerOfTen k.toNat
  let lower := num / den
  let rest := 2 * (num % den)
  match r.holds lower k, r.holds (lower + 1) k with
  | true, true =>
      some (if rest < den ∨ (rest = den ∧ tie.takesLower lower) then lower else lower + 1)
  | true, false => some lower
  | false, true => some (lower + 1)
  | false, false => none

/-- The first grid, by ascending count of digits, on which a number is found. -/
def Rounding.search (r : Rounding) (tie : Tie) (magnitude : Int) : List Nat → Nat × Int
  | [] => (0, 0)
  | n :: rest =>
      match r.onGrid? tie (magnitude - n) with
      | some digits => (digits, magnitude - n)
      | none => search r tie magnitude rest

/-- The digits of the shortest form, without zeros at the end, and the power of ten of the first
of them. Zero has the digit zero. -/
def shortest (x : Binary64) (tie : Tie) : List Char × Int :=
  if x.position = 0 then (['0'], 0)
  else
    let (n, k) := x.rounding.search tie x.rounding.magnitude (List.range 17)
    let digits := decimalDigits n
    ((digits.reverse.dropWhile (· = '0')).reverse, k + digits.length - 1)

end Binary64

structure DecimalLayout where
  /-- Which digits the number has where there is a choice. -/
  tie : Tie
  /-- The exponents of the first digit for which the number is written in positional notation. -/
  isPositional : Int → Bool
  /-- What follows a whole number in positional notation. -/
  wholeEnd : List Char

namespace DecimalLayout

def positional (layout : DecimalLayout) (digits : List Char) (exponent : Int) : List Char :=
  if exponent < 0 then '0' :: '.' :: (List.replicate (-exponent - 1).toNat '0' ++ digits)
  else
    let whole := (exponent + 1).toNat
    if digits.length ≤ whole then
      digits ++ List.replicate (whole - digits.length) '0' ++ layout.wholeEnd
    else digits.take whole ++ '.' :: digits.drop whole

def scientific (digits : List Char) (exponent : Int) : List Char :=
  let fraction := if digits.length ≤ 1 then [] else '.' :: digits.drop 1
  let sign := if exponent < 0 then '-' else '+'
  digits.take 1 ++ fraction ++ 'e' :: sign :: decimalDigits exponent.natAbs

def text (layout : DecimalLayout) (x : Binary64) : List Char :=
  let (digits, exponent) := x.shortest layout.tie
  let magnitude :=
    if layout.isPositional exponent then layout.positional digits exponent
    else scientific digits exponent
  if x.negative then '-' :: magnitude else magnitude

end DecimalLayout

end AccessGovernance
