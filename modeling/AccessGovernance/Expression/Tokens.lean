import AccessGovernance.Expression.Error
import AccessGovernance.Number.Decimal
import AccessGovernance.Text.Blank
import AccessGovernance.Text.Rest

/-! # From text to tokens

Tokens are taken from the text from the left, each as long as it can be, and blanks between them
are skipped. The first piece of text that is no token is the error.
-/

namespace AccessGovernance

namespace Expression

open Text (Rest)

/-- Reads up to the closing quote. A backslash stands before a character that is taken as it is. -/
def scanQuoted (quote : Char) : List Char → Option (List Char × List Char)
  | [] => none
  | ['\\'] => none
  | '\\' :: c :: rest => (scanQuoted quote rest).map fun p => (c :: p.1, p.2)
  | c :: rest =>
      if c = quote then some ([], rest)
      else (scanQuoted quote rest).map fun p => (c :: p.1, p.2)

theorem scanQuoted_length {quote : Char} {s t r : List Char}
    (h : scanQuoted quote s = some (t, r)) : r.length < s.length := by
  fun_induction scanQuoted quote s generalizing t r with
  | case1 => simp at h
  | case2 => simp at h
  | case3 c rest ih =>
    obtain ⟨⟨p, q⟩, h1, h2⟩ := Option.map_eq_some_iff.1 h
    simp only [Prod.mk.injEq] at h2
    have := ih h1
    simp only [List.length_cons, ← h2.2]
    omega
  | case4 rest =>
    simp only [Option.some.injEq, Prod.mk.injEq] at h
    simp [← h.2]
  | case5 c rest _ _ _ ih =>
    obtain ⟨⟨p, q⟩, h1, h2⟩ := Option.map_eq_some_iff.1 h
    simp only [Prod.mk.injEq] at h2
    have := ih h1
    simp only [List.length_cons, ← h2.2]
    omega

def isNumberPart (c : Char) : Bool :=
  c.isDigit || c = '.'

def isWordStart (c : Char) : Bool :=
  c.isAlpha || c = '_'

def isWordPart (c : Char) : Bool :=
  c.isAlphanum || c = '_'

/-- Digits are an integer, which has to fit in 64 bits with a sign; digits with one point are a
finite double. -/
def numberOf? (digits : List Char) : Option Number :=
  if '.' ∈ digits then
    ((Decimal.ofText? digits).bind Decimal.toBinary64?).map .double
  else
    ((natOfDigits? 10 digits).filter (· < 0x8000000000000000)).map fun n => .integer n

/-- The word `in` is an operator, every other word an identifier. -/
def wordToken (word : List Char) : Token :=
  if word = ['i', 'n'] then .operator .isIn else .identifier (String.ofList word)

/-- The token that starts with the character `c`, and what follows it. -/
def scanToken (c : Char) (text : List Char) : Except Malformation (Token × Rest text) :=
  match c with
  | '.' => .ok (.dot, .all text)
  | ',' => .ok (.comma, .all text)
  | '(' => .ok (.openParen, .all text)
  | ')' => .ok (.closeParen, .all text)
  | '[' => .ok (.openBracket, .all text)
  | ']' => .ok (.closeBracket, .all text)
  | '=' =>
      match Rest.after? '=' text with
      | some rest => .ok (.operator .eq, rest)
      | none => .error (.unexpectedCharacter '=')
  | '!' =>
      match Rest.after? '=' text with
      | some rest => .ok (.operator .ne, rest)
      | none => .ok (.not, .all text)
  | '<' =>
      match Rest.after? '=' text with
      | some rest => .ok (.operator .le, rest)
      | none => .ok (.operator .lt, .all text)
  | '>' =>
      match Rest.after? '=' text with
      | some rest => .ok (.operator .ge, rest)
      | none => .ok (.operator .gt, .all text)
  | '&' =>
      match Rest.after? '&' text with
      | some rest => .ok (.operator .and, rest)
      | none => .error (.unpaired '&')
  | '|' =>
      match Rest.after? '|' text with
      | some rest => .ok (.operator .or, rest)
      | none => .error (.unpaired '|')
  | c =>
      if c = '"' ∨ c = '\'' then
        match h : scanQuoted c text with
        | some (s, rest) =>
            .ok (.string (String.ofList s), ⟨rest, Nat.le_of_lt (scanQuoted_length h)⟩)
        | none => .error .unterminatedString
      else if c.isDigit then
        let digits := c :: text.takeWhile isNumberPart
        match numberOf? digits with
        | some n => .ok (.number n, .dropWhile isNumberPart text)
        | none => .error (.invalidNumber (String.ofList digits))
      else if isWordStart c then
        .ok (wordToken (c :: text.takeWhile isWordPart), .dropWhile isWordPart text)
      else .error (.unexpectedCharacter c)

def tokenize : List Char → Except Malformation (List Token)
  | [] => .ok []
  | c :: text =>
      if Text.isBlank c then tokenize text
      else
        match scanToken c text with
        | .error e => .error e
        | .ok (token, ⟨rest, _⟩) => (tokenize rest).map (token :: ·)
termination_by text => text.length
decreasing_by
  · simp
  · simp only [List.length_cons]
    omega

end Expression

end AccessGovernance
