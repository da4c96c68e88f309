import AccessGovernance.Json.Value
import AccessGovernance.Number.Decimal
import AccessGovernance.Text.Rest

/-! # Tokens of JSON text

Punctuation, literals, numbers and strings. A number without a fraction and an exponent is an
integer if it fits in 64 bits; all others are rounded to doubles, and so is a zero with a minus
sign. A string is read in two steps: first the characters and the code units that it names by
number, then the surrogate pairs among the latter.
-/

namespace AccessGovernance

namespace Json

open Text (Rest length_dropWhile_le)

inductive Token
  | openArray
  | closeArray
  | openObject
  | closeObject
  | colon
  | comma
  | literal (value : Json)
  | string (s : String)

/-! ## Strings -/

/-- A character of a string, or a code unit of UTF-16 that is named by its number. -/
inductive StringPart
  | char (c : Char)
  | unit (n : Nat)

def simpleEscape? : Char → Option Char
  | '"' => some '"'
  | '\\' => some '\\'
  | '/' => some '/'
  | 'b' => some '\x08'
  | 'f' => some '\x0c'
  | 'n' => some '\n'
  | 'r' => some '\r'
  | 't' => some '\t'
  | _ => none

/-- Reads up to the closing quote. Control characters have to be escaped. -/
def scanString : List Char → Option (List StringPart × List Char)
  | [] => none
  | '"' :: rest => some ([], rest)
  | '\\' :: 'u' :: a :: b :: c :: d :: rest => do
      let n ← natOfDigits? 16 [a, b, c, d]
      let (parts, rest) ← scanString rest
      return (.unit n :: parts, rest)
  | '\\' :: e :: rest => do
      let c ← simpleEscape? e
      let (parts, rest) ← scanString rest
      return (.char c :: parts, rest)
  | c :: rest =>
      if c.toNat < 0x20 ∨ c = '\\' then none
      else do
        let (parts, rest) ← scanString rest
        return (.char c :: parts, rest)

theorem scanString_length {s r : List Char} {parts : List StringPart}
    (h : scanString s = some (parts, r)) : r.length < s.length := by
  fun_induction scanString s generalizing parts r with
  | case1 => simp at h
  | case2 rest =>
    simp only [Option.some.injEq, Prod.mk.injEq] at h
    simp [← h.2]
  | case3 a b c d rest ih =>
    simp only [bind, Option.bind_eq_some_iff, pure, Option.some.injEq, Prod.mk.injEq] at h
    obtain ⟨_, _, ⟨p, q⟩, h1, _, rfl⟩ := h
    have := ih h1
    simp only [List.length_cons]
    omega
  | case4 e rest _ ih =>
    simp only [bind, Option.bind_eq_some_iff, pure, Option.some.injEq, Prod.mk.injEq] at h
    obtain ⟨_, _, ⟨p, q⟩, h1, _, rfl⟩ := h
    have := ih h1
    simp only [List.length_cons]
    omega
  | case5 => simp at h
  | case6 _ _ _ _ _ _ ih =>
    simp only [bind, Option.bind_eq_some_iff, pure, Option.some.injEq, Prod.mk.injEq] at h
    obtain ⟨⟨p, q⟩, h1, _, rfl⟩ := h
    have := ih h1
    simp only [List.length_cons]
    omega

/-- The characters of a string. A code unit between 0xD800 and 0xDFFF must belong to a pair. -/
def joinParts? : List StringPart → Option (List Char)
  | [] => some []
  | .char c :: rest => (joinParts? rest).map (c :: ·)
  | .unit n :: .unit m :: rest =>
      if 0xD800 ≤ n ∧ n < 0xDC00 then
        if 0xDC00 ≤ m ∧ m < 0xE000 then
          (joinParts? rest).map (Char.ofNat (0x10000 + (n - 0xD800) * 0x400 + (m - 0xDC00)) :: ·)
        else none
      else if 0xDC00 ≤ n ∧ n < 0xE000 then none
      else (joinParts? (.unit m :: rest)).map (Char.ofNat n :: ·)
  | .unit n :: rest =>
      if 0xD800 ≤ n ∧ n < 0xE000 then none else (joinParts? rest).map (Char.ofNat n :: ·)

/-! ## Numbers -/

/-- An integer that fits in 64 bits as such, and what does not as a double. Zero with a minus sign
is a double. -/
def integerOrDouble? (negative : Bool) (n : Nat) : Option Number :=
  if negative then
    if n = 0 ∨ 0x8000000000000000 < n then (Binary64.ofRatio? true n 1).map .double
    else some (.integer (-(n : Int)))
  else if n < 0x10000000000000000 then some (.integer n)
  else (Binary64.ofRatio? false n 1).map .double

def numberOf? (negative : Bool) (whole : List Char) (fraction exponent : Option (List Char)) :
    Option Number :=
  if whole = [] ∨ (whole.head? = some '0' ∧ 1 < whole.length) ∨ fraction = some [] then none
  else
    match fraction, exponent with
    | none, none => (natOfDigits? 10 whole).bind (integerOrDouble? negative)
    | _, _ => do
        let e ← (exponent.map intOfText?).getD (some 0)
        let d ← Decimal.ofParts? negative whole (fraction.getD []) e
        let x ← d.toBinary64?
        return .double x

def scanFraction : List Char → Option (List Char) × List Char
  | '.' :: rest => (some (rest.takeWhile Char.isDigit), rest.dropWhile Char.isDigit)
  | rest => (none, rest)

def scanExponent : List Char → Option (List Char) × List Char
  | c :: rest =>
      if c = 'e' ∨ c = 'E' then
        let sign := rest.take 1 |>.filter fun s => s = '+' || s = '-'
        let rest := rest.drop sign.length
        (some (sign ++ rest.takeWhile Char.isDigit), rest.dropWhile Char.isDigit)
      else (none, c :: rest)
  | [] => (none, [])

def scanNumber (negative : Bool) (s : List Char) : Option Number × List Char :=
  let fraction := scanFraction (s.dropWhile Char.isDigit)
  let exponent := scanExponent fraction.2
  (numberOf? negative (s.takeWhile Char.isDigit) fraction.1 exponent.1, exponent.2)

theorem scanFraction_length (s : List Char) : (scanFraction s).2.length ≤ s.length := by
  unfold scanFraction
  split
  · rename_i rest
    have := length_dropWhile_le Char.isDigit rest
    simp only [List.length_cons]
    omega
  · simp

theorem scanExponent_length (s : List Char) : (scanExponent s).2.length ≤ s.length := by
  unfold scanExponent
  split
  · rename_i c rest
    split
    · refine Nat.le_trans (length_dropWhile_le _ _) ?_
      simp only [List.length_drop, List.length_cons]
      omega
    · simp
  · simp

theorem scanNumber_length_dropWhile (negative : Bool) (s : List Char) :
    (scanNumber negative s).2.length ≤ (s.dropWhile Char.isDigit).length :=
  Nat.le_trans (scanExponent_length _) (scanFraction_length _)

theorem scanNumber_length (negative : Bool) (s : List Char) :
    (scanNumber negative s).2.length ≤ s.length :=
  Nat.le_trans (scanNumber_length_dropWhile negative s) (length_dropWhile_le _ _)

theorem scanNumber_length_cons (negative : Bool) {c : Char} (rest : List Char)
    (h : c.isDigit = true) : (scanNumber negative (c :: rest)).2.length ≤ rest.length := by
  refine Nat.le_trans (scanNumber_length_dropWhile negative (c :: rest)) ?_
  rw [List.dropWhile_cons_of_pos h]
  exact length_dropWhile_le _ _

/-! ## Tokens -/

def literal? (word : List Char) : Option Token :=
  if word = "true".toList then some (.literal (.bool true))
  else if word = "false".toList then some (.literal (.bool false))
  else if word = "null".toList then some (.literal .null)
  else none

def scanToken (c : Char) (rest : List Char) :
    Option (Token × Rest rest) :=
  match c with
  | '[' => some (.openArray, .all rest)
  | ']' => some (.closeArray, .all rest)
  | '\x7b' => some (.openObject, .all rest)
  | '\x7d' => some (.closeObject, .all rest)
  | ':' => some (.colon, .all rest)
  | ',' => some (.comma, .all rest)
  | '"' =>
      match h : scanString rest with
      | none => none
      | some (parts, r) =>
          (joinParts? parts).map fun s =>
            (.string (String.ofList s), ⟨r, Nat.le_of_lt (scanString_length h)⟩)
  | '-' =>
      (scanNumber true rest).1.map fun n =>
        (.literal (.number n), ⟨(scanNumber true rest).2, scanNumber_length true rest⟩)
  | c =>
      if h : c.isDigit = true then
        (scanNumber false (c :: rest)).1.map fun n =>
          (.literal (.number n),
            ⟨(scanNumber false (c :: rest)).2, scanNumber_length_cons false rest h⟩)
      else
        (literal? (c :: rest.takeWhile Char.isAlpha)).map fun t =>
          (t, .dropWhile Char.isAlpha rest)

def tokens? : List Char → Option (List Token)
  | [] => some []
  | c :: rest =>
      if c = ' ' ∨ c = '\t' ∨ c = '\n' ∨ c = '\r' then tokens? rest
      else
        match scanToken c rest with
        | none => none
        | some (t, ⟨r, _⟩) => (tokens? r).map (t :: ·)
termination_by s => s.length
decreasing_by
  · simp
  · simp only [List.length_cons]
    omega

end Json

end AccessGovernance
