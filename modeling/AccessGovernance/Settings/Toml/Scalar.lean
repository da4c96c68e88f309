import AccessGovernance.Settings.Value
import AccessGovernance.Text.Split

/-! # TOML values without delimiters

Booleans, integers, floats, dates and times, each read from the whole of a word. Underscores may
stand between digits. Dates and times are kept as texts in their canonical form.
-/

namespace AccessGovernance

namespace Toml

/-- The digits of a number without the underscores, each of which must be between two digits. -/
def digits? (isDigit : Char → Bool) (s : List Char) : Option (List Char) :=
  let groups := Text.fields '_' s
  if groups.all fun g => g ≠ [] && g.all isDigit then some groups.flatten else none

/-- The digits of a decimal integer, which does not start with a zero unless it is zero. -/
def decimalDigits? (s : List Char) : Option (List Char) :=
  if s.head? = some '0' && s ≠ ['0'] then none else digits? Char.isDigit s

def signed : List Char → Bool × List Char
  | '-' :: rest => (true, rest)
  | '+' :: rest => (false, rest)
  | rest => (false, rest)

def inBase? (base : Nat) (s : List Char) : Option Int :=
  ((digits? (fun c => (digit? base c).isSome) s).bind (natOfDigits? base)).map Int.ofNat

def integer? (s : List Char) : Option SettingValue :=
  let n :=
    match s with
    | '0' :: 'x' :: rest => inBase? 16 rest
    | '0' :: 'o' :: rest => inBase? 8 rest
    | '0' :: 'b' :: rest => inBase? 2 rest
    | s =>
        let (negative, rest) := signed s
        ((decimalDigits? rest).bind (natOfDigits? 10)).map fun n =>
          if negative then -(n : Int) else n
  (n.filter fitsSigned64).map .integer

def exponent? (s : List Char) : Option Int :=
  let (negative, rest) := signed s
  ((digits? Char.isDigit rest).bind (natOfDigits? 10)).map fun n =>
    if negative then -(n : Int) else n

def decimal? (s : List Char) : Option Decimal := do
  let (negative, s) := signed s
  let mark := fun c => c = 'e' || c = 'E'
  let mantissa := s.takeWhile fun c => !mark c
  let exponent ←
    match s.dropWhile fun c => !mark c with
    | [] => some 0
    | _ :: rest => exponent? rest
  match Text.cutFirst? '.' mantissa with
  | some (whole, fraction) =>
      Decimal.ofParts? negative (← decimalDigits? whole) (← digits? Char.isDigit fraction) exponent
  | none =>
      if mantissa.length = s.length then none
      else Decimal.ofParts? negative (← decimalDigits? mantissa) [] exponent

/-- A float. One that is too large is an error, unless it is negative. -/
def float? (s : List Char) : Option SettingValue :=
  match decimal? s with
  | some d =>
      match ExtendedBinary64.ofDecimal d with
      | .infinite false => none
      | x => some (.double x)
  | none =>
      let (negative, word) := signed s
      if word = "inf".toList then some (.double (.infinite negative))
      else if word = "nan".toList then some (.double .notANumber)
      else none

/-! ## Dates and times -/

def upTo? (bound : Nat) (a b : Char) : Option Nat :=
  if a.isDigit && b.isDigit then (natOfDigits? 10 [a, b]).filter (· ≤ bound) else none

def isLeapYear (year : Nat) : Bool :=
  year % 4 = 0 && (year % 100 ≠ 0 || year % 400 = 0)

def daysInMonth (year month : Nat) : Nat :=
  if month = 2 then if isLeapYear year then 29 else 28
  else if month ∈ [4, 6, 9, 11] then 30
  else 31

def isDate : List Char → Bool
  | [a, b, c, d, '-', e, f, '-', g, h] =>
      match digits? Char.isDigit [a, b, c, d], upTo? 12 e f, upTo? 31 g h with
      | some year, some month, some day =>
          1 ≤ month && 1 ≤ day && day ≤ daysInMonth ((natOfDigits? 10 year).getD 0) month
      | _, _, _ => false
  | _ => false

/-- The canonical form of an offset from universal time. -/
def offset? : List Char → Option (List Char)
  | [] => some []
  | ['Z'] | ['z'] => some ['Z']
  | [sign, a, b, ':', c, d] => do
      let hours ← upTo? 23 a b
      let minutes ← upTo? 59 c d
      if sign = '+' ∨ (sign = '-' ∧ hours + minutes = 0) then some ['+', a, b, ':', c, d]
      else if sign = '-' then some [sign, a, b, ':', c, d]
      else none
  | _ => none

/-- The canonical form of a fraction of a second: at most nine digits, and no zeros at the end. -/
def fractionText (digits : List Char) : List Char :=
  let significant := ((digits.take 9).reverse.dropWhile (· = '0')).reverse
  if significant = [] then [] else '.' :: significant

/-- The canonical form of a time of day, with an offset if one is allowed. -/
def time? (withOffset : Bool) : List Char → Option (List Char)
  | a :: b :: ':' :: c :: d :: ':' :: e :: f :: rest => do
      let _ ← upTo? 23 a b
      let _ ← upTo? 59 c d
      let _ ← upTo? 60 e f
      let (fraction, rest) ←
        match rest with
        | '.' :: rest =>
            let digits := rest.takeWhile Char.isDigit
            if digits = [] then none else some (fractionText digits, rest.dropWhile Char.isDigit)
        | rest => some ([], rest)
      let offset ← offset? rest
      if offset ≠ [] && !withOffset then none
      else some (a :: b :: ':' :: c :: d :: ':' :: e :: f :: (fraction ++ offset))
  | _ => none

def dateTime? (s : List Char) : Option SettingValue :=
  let date := s.take 10
  let text :=
    if isDate date then
      match s.drop 10 with
      | [] => some date
      | c :: rest =>
          if c ∈ ['T', 't', ' '] then (time? true rest).map fun t => date ++ 'T' :: t else none
    else time? false s
  text.map fun t => .string (String.ofList t)

def scalar? (s : List Char) : Option SettingValue :=
  if s = "true".toList then some (.bool true)
  else if s = "false".toList then some (.bool false)
  else (dateTime? s).or ((float? s).or (integer? s))

end Toml

end AccessGovernance
