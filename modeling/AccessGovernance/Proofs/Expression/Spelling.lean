import AccessGovernance.Expression.Tokens
import AccessGovernance.Json.Printer

/-! # The spelling of tokens

Plain tokens are written with blanks between them, and read back whatever the blanks are and
whichever of the two quotes stand around a string.
-/

namespace AccessGovernance

namespace Expression

open Text (isBlank)

/-- A letter or an underscore, and letters, digits and underscores after it; but not the operator
`in`. -/
def IsName (name : String) : Prop :=
  name ≠ "in" ∧ ∃ c rest, name.toList = c :: rest ∧ (c.isAlpha ∨ c = '_') ∧
    ∀ d ∈ rest, d.isAlphanum ∨ d = '_'

def IsQuote (c : Char) : Prop :=
  c = '"' ∨ c = '\''

def escaped (quote c : Char) : List Char :=
  if c = '\\' ∨ c = quote then ['\\', c] else [c]

namespace Token

def text (quote : Char) : Token → List Char
  | identifier name => name.toList
  | number n => Json.numberText n
  | string s => quote :: (s.toList.flatMap (escaped quote) ++ [quote])
  | operator op => op.symbol.toList
  | not => ['!']
  | dot => ['.']
  | comma => [',']
  | openParen => ['(']
  | closeParen => [')']
  | openBracket => ['[']
  | closeBracket => [']']

/-- Only names stand for identifiers, and only integers without a sign that fit in 64 bits with one
stand for numbers. -/
def IsPlain : Token → Prop
  | identifier name => IsName name
  | number n => ∃ k : Nat, k < 0x8000000000000000 ∧ n = .integer k
  | _ => True

end Token

/-- Where such a text begins, the token before it is complete. -/
def EndsToken (rest : List Char) : Prop :=
  ∀ c ∈ rest.head?, isBlank c = true

/-- The tokens in their order, each after any blanks, and with at least one blank between two. -/
inductive IsSpelling : List Token → List Char → Prop
  | nil {blanks : List Char} (hblanks : ∀ c ∈ blanks, isBlank c = true) : IsSpelling [] blanks
  | cons {token : Token} {tokens : List Token} {quote : Char} {blanks rest : List Char}
      (hblanks : ∀ c ∈ blanks, isBlank c = true) (hquote : IsQuote quote)
      (hend : EndsToken rest) (h : IsSpelling tokens rest) :
      IsSpelling (token :: tokens) (blanks ++ (token.text quote ++ rest))

variable {c quote : Char} {text rest : List Char} {token : Token} {tokens : List Token}

/-! ## Characters in tokens -/

theorem isDigit_iff : c.isDigit = true ↔ 0x30 ≤ c.toNat ∧ c.toNat ≤ 0x39 :=
  Char.isDigit_iff_toNat

theorem isWordStart_iff : isWordStart c = true ↔
    (0x41 ≤ c.toNat ∧ c.toNat ≤ 0x5A) ∨ (0x61 ≤ c.toNat ∧ c.toNat ≤ 0x7A) ∨ c = '_' := by
  have halpha : c.isAlpha =
      (decide (65 ≤ c.val ∧ c.val ≤ 90) || (decide (97 ≤ c.val) && decide (c.val ≤ 122))) := rfl
  rw [isWordStart, halpha]
  simp [UInt32.le_iff_toNat_le, or_assoc]

theorem isWordPart_iff : isWordPart c = true ↔ isWordStart c = true ∨ c.isDigit = true := by
  grind [isWordPart, isWordStart, Char.isAlphanum]

theorem isDigit_of_isWordStart (h : isWordStart c = true) : c.isDigit = false := by
  rw [Bool.eq_false_iff, Ne, isDigit_iff]
  rcases isWordStart_iff.mp h with h | h | rfl
  · omega
  · omega
  · decide

theorem isBlank_of_isWordPart (h : isWordPart c = true) : isBlank c = false := by
  rcases isWordPart_iff.mp h with hstart | hdigit
  · rcases isWordStart_iff.mp hstart with h | h | rfl
    · exact Text.isBlank_of_range (by omega) (by omega)
    · exact Text.isBlank_of_range (by omega) (by omega)
    · rfl
  · have hrange := isDigit_iff.mp hdigit
    exact Text.isBlank_of_range (by omega) (by omega)

theorem isBlank_of_isWordStart (h : isWordStart c = true) : isBlank c = false :=
  isBlank_of_isWordPart (isWordPart_iff.mpr (.inl h))

theorem isBlank_of_isDigit (h : c.isDigit = true) : isBlank c = false :=
  isBlank_of_isWordPart (isWordPart_iff.mpr (.inr h))

theorem isBlank_of_isNumberPart (h : isNumberPart c = true) : isBlank c = false := by
  rw [isNumberPart, Bool.or_eq_true, decide_eq_true_eq] at h
  rcases h with hdigit | rfl
  · exact isBlank_of_isDigit hdigit
  · rfl

theorem isName_iff {name : String} : IsName name ↔ name ≠ "in" ∧
    ∃ c rest, name.toList = c :: rest ∧ isWordStart c = true ∧ rest.all isWordPart = true := by
  simp [IsName, isWordStart, isWordPart]

namespace IsQuote

theorem not_blank (h : IsQuote c) : isBlank c = false := by
  rcases h with rfl | rfl <;> rfl

theorem ne_backslash (h : IsQuote c) : c ≠ '\\' := by
  rcases h with rfl | rfl <;> decide

end IsQuote

namespace EndsToken

theorem head_eq_false {p : Char → Bool} (hend : EndsToken rest)
    (hp : ∀ c, p c = true → isBlank c = false) : ∀ c ∈ rest.head?, p c = false := by
  intro c hc
  rw [Bool.eq_false_iff]
  intro hpc
  exact Bool.false_ne_true ((hp c hpc).symm.trans (hend c hc))

theorem after?_eq_none (hend : EndsToken rest) (hc : isBlank c = false) :
    Text.Rest.after? c rest = none := by
  apply Text.Rest.after?_eq_none
  rintro d hd rfl
  exact Bool.false_ne_true (hc.symm.trans (hend d hd))

end EndsToken

/-! ## One token -/

theorem tokenize_cons (left : Text.Rest text) (hc : isBlank c = false)
    (h : scanToken c text = .ok (token, left)) :
    tokenize (c :: text) = (tokenize left.1).map (token :: ·) := by
  rw [tokenize, if_neg (Bool.eq_false_iff.mp hc), h]

theorem scanQuoted_escaped_append : scanQuoted quote (escaped quote c ++ rest) =
    (scanQuoted quote rest).map fun p => (c :: p.1, p.2) := by
  rw [escaped]
  split
  · rfl
  · rename_i hc
    obtain ⟨hbackslash, hquote⟩ := not_or.mp hc
    simp [scanQuoted, hbackslash, hquote]

theorem scanQuoted_flatMap_escaped (hquote : quote ≠ '\\') (s rest : List Char) :
    scanQuoted quote (s.flatMap (escaped quote) ++ quote :: rest) = some (s, rest) := by
  induction s with
  | nil => simp [scanQuoted, hquote]
  | cons c s ih =>
    rw [List.flatMap_cons, List.append_assoc, scanQuoted_escaped_append, ih, Option.map_some]

theorem scanToken_quote {s left : List Char} (hquote : IsQuote quote)
    (hs : scanQuoted quote text = some (s, left)) : scanToken quote text =
      .ok (.string (String.ofList s), ⟨left, Nat.le_of_lt (scanQuoted_length hs)⟩) := by
  rw [scanToken.eq_def]
  split
  case h_13 =>
    have hor : quote = '"' ∨ quote = '\'' := hquote
    rw [if_pos hor]
    split
    · rename_i hs'
      cases hs.symm.trans hs'
      rfl
    · rename_i hs'
      cases hs.symm.trans hs'
  all_goals rcases hquote with h | h <;> cases h

theorem scanToken_digit {n : Number} (hc : c.isDigit = true)
    (hn : numberOf? (c :: text.takeWhile isNumberPart) = some n) :
    scanToken c text = .ok (.number n, .dropWhile isNumberPart text) := by
  rw [scanToken.eq_def]
  split
  case h_13 =>
    rw [if_neg, if_pos hc]
    · simp only [hn]
    · rintro (rfl | rfl) <;> exact absurd hc (by decide)
  all_goals exact absurd hc (by decide)

theorem scanToken_word (hc : isWordStart c = true) : scanToken c text =
    .ok (wordToken (c :: text.takeWhile isWordPart), .dropWhile isWordPart text) := by
  rw [scanToken.eq_def]
  split
  case h_13 =>
    rw [if_neg, if_neg (Bool.eq_false_iff.mp (isDigit_of_isWordStart hc)), if_pos hc]
    rintro (rfl | rfl) <;> exact absurd hc (by decide)
  all_goals exact absurd hc (by decide)

theorem numberOf?_decimalDigits {k : Nat} (hk : k < 0x8000000000000000) :
    numberOf? (decimalDigits k) = some (.integer k) := by
  have hpoint : '.' ∉ decimalDigits k := fun h =>
    absurd (isDigit_of_mem_decimalDigits _ h) (by decide)
  rw [numberOf?, if_neg hpoint, natOfDigits?_decimalDigits, Option.filter_some,
    if_pos (decide_eq_true hk)]
  rfl

theorem wordToken_of_isName {name : String} (h : IsName name) :
    wordToken name.toList = .identifier name := by
  rw [wordToken, if_neg, String.ofList_toList]
  intro hin
  exact h.1 (String.toList_injective hin)

theorem tokenize_word_append_of_head {part : List Char} (hc : isWordStart c = true)
    (hpart : ∀ d ∈ part, isWordPart d = true) (hrest : ∀ d ∈ rest.head?, isWordPart d = false) :
    tokenize (c :: part ++ rest) = (tokenize rest).map (wordToken (c :: part) :: ·) := by
  rw [List.cons_append, tokenize_cons _ (isBlank_of_isWordStart hc) (scanToken_word hc),
    Text.takeWhile_append_of_head hpart hrest]
  exact congrArg (fun left => (tokenize left).map _) (Text.dropWhile_append_of_head hpart hrest)

theorem tokenize_string_append (hquote : IsQuote quote) (s : String) :
    tokenize ((Token.string s).text quote ++ rest) = (tokenize rest).map (.string s :: ·) := by
  have hquoted := scanQuoted_flatMap_escaped hquote.ne_backslash s.toList rest
  have hscan := scanToken_quote hquote hquoted
  rw [String.ofList_toList] at hscan
  rw [Token.text, List.cons_append, List.append_assoc]
  exact tokenize_cons _ hquote.not_blank hscan

section

variable (hend : EndsToken rest)
include hend

theorem tokenize_number_append {part : List Char} {n : Number} (hc : c.isDigit = true)
    (hpart : ∀ d ∈ part, d.isDigit = true) (hn : numberOf? (c :: part) = some n) :
    tokenize (c :: part ++ rest) = (tokenize rest).map (.number n :: ·) := by
  have hnumber : ∀ d ∈ part, isNumberPart d = true := fun d hd => by
    rw [isNumberPart, hpart d hd, Bool.true_or]
  have hrest := hend.head_eq_false fun _ => isBlank_of_isNumberPart
  rw [← Text.takeWhile_append_of_head hnumber hrest] at hn
  rw [List.cons_append, tokenize_cons _ (isBlank_of_isDigit hc) (scanToken_digit hc hn)]
  exact congrArg (fun left => (tokenize left).map _) (Text.dropWhile_append_of_head hnumber hrest)

theorem tokenize_word_append {part : List Char} (hc : isWordStart c = true)
    (hpart : ∀ d ∈ part, isWordPart d = true) :
    tokenize (c :: part ++ rest) = (tokenize rest).map (wordToken (c :: part) :: ·) :=
  tokenize_word_append_of_head hc hpart (hend.head_eq_false fun _ => isBlank_of_isWordPart)

theorem tokenize_operator_append (op : Operator) :
    tokenize (op.symbol.toList ++ rest) = (tokenize rest).map (.operator op :: ·) := by
  -- After `<` and `>` the text might go on with an equals sign, were there no blank.
  have hequals : Text.Rest.after? '=' rest = none := hend.after?_eq_none rfl
  cases op
  case lt =>
    have hscan : scanToken '<' rest = .ok (.operator .lt, .all rest) := by
      simp only [scanToken, hequals]
    exact tokenize_cons _ rfl hscan
  case gt =>
    have hscan : scanToken '>' rest = .ok (.operator .gt, .all rest) := by
      simp only [scanToken, hequals]
    exact tokenize_cons _ rfl hscan
  case isIn =>
    have hpart : ∀ d ∈ ['n'], isWordPart d = true := List.forall_mem_singleton.mpr rfl
    exact tokenize_word_append hend (c := 'i') rfl hpart
  all_goals exact tokenize_cons ⟨rest, Nat.le_succ _⟩ rfl rfl

theorem tokenize_text_append (hquote : IsQuote quote) (h : token.IsPlain) :
    tokenize (token.text quote ++ rest) = (tokenize rest).map (token :: ·) := by
  cases token with
  | identifier name =>
    obtain ⟨_, c, part, hname, hc, hpart⟩ := isName_iff.mp h
    change tokenize (name.toList ++ rest) = _
    rw [← wordToken_of_isName h, hname]
    exact tokenize_word_append hend hc (List.all_eq_true.mp hpart)
  | number n =>
    obtain ⟨k, hk, rfl⟩ := h
    have hnumber := numberOf?_decimalDigits hk
    have hdigits := isDigit_of_mem_decimalDigits (n := k)
    change tokenize (decimalDigits k ++ rest) = _
    cases hk : decimalDigits k with
    | nil => exact absurd hk Nat.toDigits_ne_nil
    | cons c part =>
      rw [hk] at hnumber hdigits
      obtain ⟨hc, hpart⟩ := List.forall_mem_cons.mp hdigits
      exact tokenize_number_append hend hc hpart hnumber
  | string s => exact tokenize_string_append hquote s
  | operator op => exact tokenize_operator_append hend op
  | not =>
    have hequals : Text.Rest.after? '=' rest = none := hend.after?_eq_none rfl
    have hscan : scanToken '!' rest = .ok (.not, .all rest) := by
      simp only [scanToken, hequals]
    exact tokenize_cons _ rfl hscan
  | _ => exact tokenize_cons (.all rest) rfl rfl

end

/-! ## All tokens -/

theorem tokenize_blanks_append {blanks : List Char} (h : ∀ c ∈ blanks, isBlank c = true)
    (rest : List Char) : tokenize (blanks ++ rest) = tokenize rest := by
  induction blanks with
  | nil => rfl
  | cons c blanks ih =>
    obtain ⟨hc, hblanks⟩ := List.forall_mem_cons.mp h
    rw [List.cons_append, tokenize, if_pos hc, ih hblanks]

theorem IsSpelling.tokenize_eq (h : IsSpelling tokens text)
    (hplain : ∀ token ∈ tokens, token.IsPlain) : tokenize text = .ok tokens := by
  induction h with
  | nil hblanks =>
    have hempty := tokenize_blanks_append hblanks []
    rwa [List.append_nil, tokenize] at hempty
  | cons hblanks hquote hend _ ih =>
    obtain ⟨htoken, htokens⟩ := List.forall_mem_cons.mp hplain
    rw [tokenize_blanks_append hblanks, tokenize_text_append hend hquote htoken, ih htokens]
    rfl

def spelled (tokens : List Token) : List Char :=
  tokens.flatMap fun token => ' ' :: token.text '"'

theorem endsToken_spelled (tokens : List Token) : EndsToken (spelled tokens) := by
  cases tokens with
  | nil => exact fun _ => nofun
  | cons token tokens =>
    rintro _ ⟨⟩
    rfl

theorem isSpelling_spelled (tokens : List Token) : IsSpelling tokens (spelled tokens) := by
  induction tokens with
  | nil => exact .nil (List.forall_mem_nil _)
  | cons token tokens ih =>
    have hblank : ∀ c ∈ [' '], isBlank c = true := List.forall_mem_singleton.mpr rfl
    exact .cons hblank (.inl rfl) (endsToken_spelled tokens) ih

end Expression

end AccessGovernance
