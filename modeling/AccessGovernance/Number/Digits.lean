/-! # Integers in positional notation -/

namespace AccessGovernance

/-- The value of a digit of a base up to sixteen, in either case. -/
def digit? (base : Nat) (c : Char) : Option Nat :=
  let value :=
    if '0' ≤ c ∧ c ≤ '9' then c.toNat - '0'.toNat
    else if 'a' ≤ c ∧ c ≤ 'f' then c.toNat - 'a'.toNat + 10
    else if 'A' ≤ c ∧ c ≤ 'F' then c.toNat - 'A'.toNat + 10
    else base
  if value < base then some value else none

def natOfDigits? (base : Nat) (digits : List Char) : Option Nat :=
  if digits = [] then none
  else digits.foldlM (fun n c => (digit? base c).map (n * base + ·)) 0

/-- The number written with digits and at most one plus sign before them. -/
def natOfText? (base : Nat) : List Char → Option Nat
  | '+' :: digits => natOfDigits? base digits
  | digits => natOfDigits? base digits

/-- The number written in decimal with at most one sign before the digits. -/
def intOfText? : List Char → Option Int
  | '-' :: digits => (natOfDigits? 10 digits).map fun n => -(n : Int)
  | '+' :: digits => (natOfDigits? 10 digits).map Int.ofNat
  | digits => (natOfDigits? 10 digits).map Int.ofNat

def powerOfTen (k : Nat) : Nat :=
  Nat.pow 10 k

def decimalDigits (n : Nat) : List Char :=
  Nat.toDigits 10 n

theorem digit?_of_isDigit {c : Char} (h : c.isDigit = true) :
    digit? 10 c = some (c.toNat - '0'.toNat) := by
  have hrange : '0' ≤ c ∧ c ≤ '9' := Char.isDigit_iff_toNat.1 h
  have hvalue : c.toNat - '0'.toNat < 10 := by
    have hhigh : c.toNat ≤ '0'.toNat + 9 := hrange.2
    omega
  simp only [digit?, if_pos hrange, if_pos hvalue]

theorem foldlM_digit? {digits : List Char} (h : ∀ c ∈ digits, c.isDigit = true) (n : Nat) :
    digits.foldlM (fun n c => (digit? 10 c).map (n * 10 + ·)) n =
      some (Nat.ofDigitChars 10 digits n) := by
  induction digits generalizing n with
  | nil => rfl
  | cons c digits ih =>
    obtain ⟨hc, hdigits⟩ := List.forall_mem_cons.1 h
    rw [List.foldlM_cons, digit?_of_isDigit hc, Nat.ofDigitChars_cons, Nat.mul_comm 10 n]
    exact ih hdigits _

theorem isDigit_of_digit? {c : Char} {n : Nat} (h : digit? 10 c = some n) : c.isDigit = true := by
  apply Char.isDigit_iff_toNat.2
  apply Classical.byContradiction
  intro hrange
  have hc : ¬ ('0' ≤ c ∧ c ≤ '9') := hrange
  rw [digit?, if_neg hc] at h
  split at h
  · rw [if_neg (by omega)] at h
    cases h
  · split at h
    · rw [if_neg (by omega)] at h
      cases h
    · cases h

theorem isDigit_of_foldlM_digit? {digits : List Char} {m n : Nat}
    (h : digits.foldlM (fun n c => (digit? 10 c).map (n * 10 + ·)) m = some n) :
    ∀ c ∈ digits, c.isDigit = true := by
  induction digits generalizing m with
  | nil => exact List.forall_mem_nil _
  | cons c digits ih =>
    rw [List.foldlM_cons] at h
    obtain ⟨k, hk, hdigits⟩ := Option.bind_eq_some_iff.1 h
    obtain ⟨v, hc, -⟩ := Option.map_eq_some_iff.1 hk
    exact List.forall_mem_cons.2 ⟨isDigit_of_digit? hc, ih hdigits⟩

theorem isDigit_of_mem_decimalDigits {n : Nat} : ∀ c ∈ decimalDigits n, c.isDigit = true :=
  fun _ hc => Nat.isDigit_of_mem_toDigits (by decide) (by decide) hc

theorem natOfDigits?_decimalDigits (n : Nat) : natOfDigits? 10 (decimalDigits n) = some n := by
  have hne : decimalDigits n ≠ [] := Nat.toDigits_ne_nil
  rw [natOfDigits?, if_neg hne, foldlM_digit? isDigit_of_mem_decimalDigits, decimalDigits,
    Nat.ofDigitChars_toDigits (by decide) (by decide)]

def decimalText : Int → List Char
  | .ofNat n => decimalDigits n
  | .negSucc n => '-' :: decimalDigits (n + 1)

def fitsSigned64 (n : Int) : Bool :=
  -0x8000000000000000 ≤ n && n < 0x8000000000000000

def fitsUnsigned64 (n : Int) : Bool :=
  0 ≤ n && n < 0x10000000000000000

end AccessGovernance
