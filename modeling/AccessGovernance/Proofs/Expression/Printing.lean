import AccessGovernance.Proofs.Expression.Parsing
import AccessGovernance.Proofs.Expression.Spelling

/-! # Printing expressions and reading them back

In a rendering of an expression the operands of binary operators are in parentheses, unless they
are no binary operations themselves. Parentheses may stand around any other part too. A text of the
expression is any spelling of the tokens of such a rendering.
-/

namespace AccessGovernance

namespace Expression

def Literal.token : Literal → Token
  | number n => .number n
  | string s => .string s
  | bool b => .identifier (if b then "true" else "false")
  | null => .identifier "null"

def pathTokens (first : String) (keys : List String) : List Token :=
  .identifier first :: keys.flatMap fun key => [.dot, .identifier key]

/-- Numbers are integers without a sign that fit in 64 bits with one, and what stands for a path or
a function is a name that no literal has. -/
inductive IsPlain : Expression → Prop
  | integer {n : Int} (hn : 0 ≤ n) (hlt : n < 0x8000000000000000) :
      IsPlain (.literal (.number (.integer n)))
  | string (s : String) : IsPlain (.literal (.string s))
  | bool (b : Bool) : IsPlain (.literal (.bool b))
  | null : IsPlain (.literal .null)
  | path {first : String} {keys : List String} (hname : IsName first)
      (hword : Literal.ofWord? first = none) (hkeys : ∀ key ∈ keys, IsName key) :
      IsPlain (.path first keys)
  | list {items : List Expression} (h : ∀ e ∈ items, IsPlain e) : IsPlain (.list items)
  | not {e : Expression} (h : IsPlain e) : IsPlain (.not e)
  | binary {op : Operator} {l r : Expression} (hl : IsPlain l) (hr : IsPlain r) :
      IsPlain (.binary op l r)
  | call {function : String} {args : List Expression} (hname : IsName function)
      (hword : Literal.ofWord? function = none) (h : ∀ e ∈ args, IsPlain e) :
      IsPlain (.call function args)

mutual

inductive IsRendering : List Token → Expression → Prop
  | operand {ts : List Token} {e : Expression} (h : IsOperand ts e) : IsRendering ts e
  | binary {op : Operator} {ls rs : List Token} {l r : Expression} (hl : IsOperand ls l)
      (hr : IsOperand rs r) : IsRendering (ls ++ .operator op :: rs) (.binary op l r)

inductive IsOperand : List Token → Expression → Prop
  | literal (l : Literal) : IsOperand [l.token] (.literal l)
  | path (first : String) (keys : List String) :
      IsOperand (pathTokens first keys) (.path first keys)
  | list {ts : List Token} {es : List Expression} (h : IsSequence ts es) :
      IsOperand (.openBracket :: (ts ++ [.closeBracket])) (.list es)
  | not {ts : List Token} {e : Expression} (h : IsOperand ts e) : IsOperand (.not :: ts) (.not e)
  | call {function : String} {ts : List Token} {es : List Expression} (h : IsSequence ts es) :
      IsOperand (.identifier function :: .openParen :: (ts ++ [.closeParen])) (.call function es)
  | parentheses {ts : List Token} {e : Expression} (h : IsRendering ts e) :
      IsOperand (.openParen :: (ts ++ [.closeParen])) e

/-- Renderings with commas between them. -/
inductive IsSequence : List Token → List Expression → Prop
  | nil : IsSequence [] []
  | last {ts : List Token} {e : Expression} (h : IsRendering ts e) : IsSequence ts [e]
  | cons {ts us : List Token} {e next : Expression} {es : List Expression} (h : IsRendering ts e)
      (hs : IsSequence us (next :: es)) : IsSequence (ts ++ .comma :: us) (e :: next :: es)

end

def IsText (e : Expression) (s : String) : Prop :=
  ∃ ts, IsRendering ts e ∧ IsSpelling ts s.toList

variable {ts us : List Token} {e : Expression} {es : List Expression}

/-! ## Renderings are derivations -/

/-! The connectives associate to the left and comparisons do not chain, but no operand of a rendering
is a binary operation outside of parentheses, so it stands at the level of negations. -/

theorem IsSelection.keys {first : String} {before : List String}
    (h : IsSelection ts (.path first before)) (keys : List String) :
    IsSelection (ts ++ keys.flatMap fun key => [.dot, .identifier key])
      (.path first (before ++ keys)) := by
  induction keys generalizing ts before with
  | nil => simpa using h
  | cons key keys ih => simpa using ih h.key

theorem isSelection_pathTokens {first : String} (h : Literal.ofWord? first = none)
    (keys : List String) : IsSelection (pathTokens first keys) (.path first keys) :=
  (IsSelection.path h).keys keys

theorem IsNegation.isDisjunction_binary {op : Operator} {ls rs : List Token} {l r : Expression}
    (hl : IsNegation ls l) (hr : IsNegation rs r) :
    IsDisjunction (ls ++ .operator op :: rs) (.binary op l r) := by
  by_cases hor : op = .or
  · subst hor
    exact .or (.single (.single (.single hl))) (.single (.single hr))
  · by_cases hand : op = .and
    · subst hand
      exact .single (.and (.single (.single hl)) (.single hr))
    · exact .single (.single (.compare (mem_comparisonOperators_iff.mpr ⟨hand, hor⟩) hl hr))

theorem IsPlain.isPrimary_token {l : Literal} (h : IsPlain (.literal l)) :
    IsPrimary [l.token] (.literal l) := by
  cases h with
  | integer => exact .number _
  | string s => exact .selection (.string s)
  | bool b => cases b <;> exact .word rfl
  | null => exact .word rfl

mutual

theorem IsRendering.isDisjunction {ts : List Token} {e : Expression} (h : IsRendering ts e)
    (he : e.IsPlain) : IsDisjunction ts e := by
  match h with
  | .operand h => exact .single (.single (.single (h.isNegation he)))
  | .binary hl hr =>
    cases he with
    | binary hel her => exact (hl.isNegation hel).isDisjunction_binary (hr.isNegation her)

theorem IsOperand.isNegation {ts : List Token} {e : Expression} (h : IsOperand ts e)
    (he : e.IsPlain) : IsNegation ts e := by
  match h with
  | .literal l => exact .primary he.isPrimary_token
  | .path first keys =>
    cases he with
    | path _ hword _ => exact .primary (.selection (isSelection_pathTokens hword keys))
  | .list h =>
    cases he with
    | list hes => exact .primary (.list (h.isArguments hes))
  | .not h =>
    cases he with
    | not he => exact .not (h.isNegation he)
  | .call h =>
    cases he with
    | call _ hword hes => exact .primary (.selection (.call hword (h.isArguments hes)))
  | .parentheses h => exact .primary (.selection (.parentheses (h.isDisjunction he)))

theorem IsSequence.isArguments {ts : List Token} {es : List Expression} (h : IsSequence ts es)
    (hes : ∀ e ∈ es, e.IsPlain) : IsArguments ts es := by
  match h with
  | .nil => exact .none
  | .last h => exact .some (.last (h.isDisjunction (List.forall_mem_singleton.mp hes)))
  | .cons h hs =>
    obtain ⟨he, hes⟩ := List.forall_mem_cons.mp hes
    cases hs.isArguments hes with
    | some hs => exact .some (.cons (h.isDisjunction he) hs)

end

/-! ## The tokens of a rendering are plain -/

def AllPlain (ts : List Token) : Prop :=
  ∀ t ∈ ts, t.IsPlain

namespace AllPlain

theorem single {t : Token} (h : t.IsPlain) : AllPlain [t] :=
  List.forall_mem_singleton.mpr h

theorem cons {t : Token} (h : t.IsPlain) (hs : AllPlain ts) : AllPlain (t :: ts) :=
  List.forall_mem_cons.mpr ⟨h, hs⟩

theorem append (h : AllPlain ts) (hs : AllPlain us) : AllPlain (ts ++ us) :=
  List.forall_mem_append.mpr ⟨h, hs⟩

theorem enclosed {opening closing : Token} (hopening : opening.IsPlain)
    (hclosing : closing.IsPlain) (h : AllPlain ts) : AllPlain (opening :: (ts ++ [closing])) :=
  cons hopening (append h (single hclosing))

theorem pathTokens {first : String} {keys : List String} (hfirst : IsName first)
    (hkeys : ∀ key ∈ keys, IsName key) : AllPlain (pathTokens first keys) := by
  refine cons hfirst fun t ht => ?_
  obtain ⟨key, hkey, ht⟩ := List.mem_flatMap.mp ht
  exact (cons trivial (single (hkeys key hkey)) : AllPlain [.dot, .identifier key]) t ht

theorem literal {l : Literal} (h : IsPlain (.literal l)) : AllPlain [l.token] := by
  cases h with
  | @integer n hn hlt =>
    obtain ⟨k, rfl⟩ := Int.eq_ofNat_of_zero_le hn
    exact single ⟨k, by omega, rfl⟩
  | string s => exact single trivial
  | bool b =>
    cases b
    · exact single (isName_iff.mpr ⟨by decide, 'f', _, rfl, rfl, rfl⟩)
    · exact single (isName_iff.mpr ⟨by decide, 't', _, rfl, rfl, rfl⟩)
  | null => exact single (isName_iff.mpr ⟨by decide, 'n', _, rfl, rfl, rfl⟩)

end AllPlain

mutual

theorem IsRendering.allPlain {ts : List Token} {e : Expression} (h : IsRendering ts e)
    (he : e.IsPlain) : AllPlain ts := by
  match h with
  | .operand h => exact h.allPlain he
  | .binary hl hr =>
    cases he with
    | binary hel her => exact .append (hl.allPlain hel) (.cons trivial (hr.allPlain her))

theorem IsOperand.allPlain {ts : List Token} {e : Expression} (h : IsOperand ts e)
    (he : e.IsPlain) : AllPlain ts := by
  match h with
  | .literal l => exact .literal he
  | .path first keys =>
    cases he with
    | path hname _ hkeys => exact .pathTokens hname hkeys
  | .list h =>
    cases he with
    | list hes => exact .enclosed trivial trivial (h.allPlain hes)
  | .not h =>
    cases he with
    | not he => exact .cons trivial (h.allPlain he)
  | .call h =>
    cases he with
    | call hname _ hes => exact .cons hname (.enclosed trivial trivial (h.allPlain hes))
  | .parentheses h => exact .enclosed trivial trivial (h.allPlain he)

theorem IsSequence.allPlain {ts : List Token} {es : List Expression} (h : IsSequence ts es)
    (hes : ∀ e ∈ es, e.IsPlain) : AllPlain ts := by
  match h with
  | .nil => exact nofun
  | .last h => exact h.allPlain (List.forall_mem_singleton.mp hes)
  | .cons h hs =>
    obtain ⟨he, hes⟩ := List.forall_mem_cons.mp hes
    exact .append (h.allPlain he) (.cons trivial (hs.allPlain hes))

end

/-! ## One rendering -/

mutual

def tokens : Expression → List Token
  | .literal l => [l.token]
  | .path first keys => pathTokens first keys
  | .list items => .openBracket :: (sequenceTokens items ++ [.closeBracket])
  | .not e => .openParen :: ((.not :: tokens e) ++ [.closeParen])
  | .binary op l r => .openParen :: ((tokens l ++ .operator op :: tokens r) ++ [.closeParen])
  | .call function args =>
      .identifier function :: .openParen :: (sequenceTokens args ++ [.closeParen])
termination_by structural e => e

def sequenceTokens : List Expression → List Token
  | [] => []
  | [e] => tokens e
  | e :: next :: es => tokens e ++ .comma :: sequenceTokens (next :: es)
termination_by structural es => es

end

mutual

theorem isOperand_tokens (e : Expression) : IsOperand (tokens e) e := by
  match e with
  | .literal l => exact .literal l
  | .path first keys => exact .path first keys
  | .list items => exact .list (isSequence_sequenceTokens items)
  | .not e => exact .parentheses (.operand (.not (isOperand_tokens e)))
  | .binary op l r => exact .parentheses (.binary (isOperand_tokens l) (isOperand_tokens r))
  | .call function args => exact .call (isSequence_sequenceTokens args)

theorem isSequence_sequenceTokens (es : List Expression) : IsSequence (sequenceTokens es) es := by
  match es with
  | [] => exact .nil
  | [e] => exact .last (.operand (isOperand_tokens e))
  | e :: next :: es =>
    exact .cons (.operand (isOperand_tokens e)) (isSequence_sequenceTokens (next :: es))

end

def text (e : Expression) : String :=
  String.ofList (spelled (tokens e))

theorem isText_text (e : Expression) : IsText e (text e) := by
  refine ⟨tokens e, .operand (isOperand_tokens e), ?_⟩
  rw [text, String.toList_ofList]
  exact isSpelling_spelled (tokens e)

/-- A plain expression can be printed, and every text of it is read back as this expression. -/
theorem ofText_of_isText (he : e.IsPlain) :
    IsText e (text e) ∧ ∀ s, IsText e s → ofText s = .ok e := by
  refine ⟨isText_text e, ?_⟩
  rintro s ⟨ts, hrendering, hspelling⟩
  have htokens : tokenize s.toList = .ok ts := hspelling.tokenize_eq (hrendering.allPlain he)
  have hparsed : ofTokens ts = .ok e := (hrendering.isDisjunction he).ofTokens_eq_ok
  rw [ofText, htokens]
  exact hparsed

theorem ofText_negated_membership :
    IsPlain (.not (.binary .isIn (.path "user" ["name"])
      (.list [.literal (.string "\"\\"), .literal (.number (.integer 7))]))) ∧
    ofText " ( ! ( user . name in [ \"\\\"\\\\\" , 7 ] ) )" =
      .ok (.not (.binary .isIn (.path "user" ["name"])
        (.list [.literal (.string "\"\\"), .literal (.number (.integer 7))]))) := by
  have huser : IsName "user" := isName_iff.mpr ⟨by decide, 'u', _, rfl, rfl, rfl⟩
  have hname : IsName "name" := isName_iff.mpr ⟨by decide, 'n', _, rfl, rfl, rfl⟩
  have hpath : IsPlain (.path "user" ["name"]) :=
    .path huser rfl (List.forall_mem_singleton.mpr hname)
  have hlist : IsPlain (.list [.literal (.string "\"\\"), .literal (.number (.integer 7))]) :=
    .list (by simp [IsPlain.string, IsPlain.integer])
  have hplain : IsPlain (.not (.binary .isIn _ _)) := .not (.binary hpath hlist)
  have hread := ofText_of_isText hplain
  exact ⟨hplain, hread.2 _ hread.1⟩

end Expression

end AccessGovernance
