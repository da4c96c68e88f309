import AccessGovernance.Proofs.Expression.Reading

/-! # Parsing and the grammar

What a reading takes off the front of the tokens has a derivation, and tokens that have a
derivation are taken off the front of any tokens, provided that what follows them does not bind
tighter than the level at which they are read. So exactly the tokens of the grammar are parsed, and
since a reading gives at most one value, the grammar is not ambiguous.
-/

namespace AccessGovernance

namespace Expression

open Reading

/-! ## What is read has a derivation

The functions of the parser call each other on fewer tokens or on the same tokens at a tighter
level, and the proofs follow their calls. Where operands or selections are added to an expression,
the tokens of the expression so far come in front of those that are still to be read.
-/

mutual

theorem exists_isDisjunction {tokens rest : List Token} {e : Expression}
    (h : (disjunction tokens).Gives e rest) :
    ∃ used, tokens = used ++ rest ∧ IsDisjunction used e := by
  obtain ⟨left, mid, hl, hm⟩ := disjunction_gives_iff.mp h
  have hfewer := hl.length_lt
  obtain ⟨used, rfl, hused⟩ := exists_isConjunction hl
  exact exists_isDisjunction_of_more (.single hused) hm
termination_by 8 * tokens.length + 5

theorem exists_isDisjunction_of_more {before tokens rest : List Token} {left e : Expression}
    (hleft : IsDisjunction before left) (h : (moreDisjuncts left tokens).Gives e rest) :
    ∃ used, before ++ tokens = used ++ rest ∧ IsDisjunction used e := by
  by_cases hor : tokens.head? = some (.operator .or)
  · obtain ⟨tail, rfl⟩ := List.head?_eq_some_iff.mp hor
    obtain ⟨right, mid, hr, hm⟩ := moreDisjuncts_or_gives_iff.mp h
    have hfewer := hr.length_lt
    obtain ⟨used, rfl, hused⟩ := exists_isConjunction hr
    simpa using exists_isDisjunction_of_more (.or hleft hused) hm
  · obtain ⟨rfl, rfl⟩ := (moreDisjuncts_gives_iff hor).mp h
    exact ⟨before, rfl, hleft⟩
termination_by 8 * tokens.length + 4

theorem exists_isConjunction {tokens rest : List Token} {e : Expression}
    (h : (conjunction tokens).Gives e rest) :
    ∃ used, tokens = used ++ rest ∧ IsConjunction used e := by
  obtain ⟨left, mid, hl, hm⟩ := conjunction_gives_iff.mp h
  have hfewer := hl.length_lt
  obtain ⟨used, rfl, hused⟩ := exists_isComparison hl
  exact exists_isConjunction_of_more (.single hused) hm
termination_by 8 * tokens.length + 3

theorem exists_isConjunction_of_more {before tokens rest : List Token} {left e : Expression}
    (hleft : IsConjunction before left) (h : (moreConjuncts left tokens).Gives e rest) :
    ∃ used, before ++ tokens = used ++ rest ∧ IsConjunction used e := by
  by_cases hand : tokens.head? = some (.operator .and)
  · obtain ⟨tail, rfl⟩ := List.head?_eq_some_iff.mp hand
    obtain ⟨right, mid, hr, hm⟩ := moreConjuncts_and_gives_iff.mp h
    have hfewer := hr.length_lt
    obtain ⟨used, rfl, hused⟩ := exists_isComparison hr
    simpa using exists_isConjunction_of_more (.and hleft hused) hm
  · obtain ⟨rfl, rfl⟩ := (moreConjuncts_gives_iff hand).mp h
    exact ⟨before, rfl, hleft⟩
termination_by 8 * tokens.length + 2

theorem exists_isComparison {tokens rest : List Token} {e : Expression}
    (h : (comparison tokens).Gives e rest) :
    ∃ used, tokens = used ++ rest ∧ IsComparison used e := by
  obtain ⟨left, mid, hl, hm⟩ := comparison_gives_iff.mp h
  have hfewer := hl.length_lt
  obtain ⟨used, rfl, hused⟩ := exists_isNegation hl
  rcases hm with ⟨op, tail, right, hop, rfl, rfl, hr⟩ | ⟨_, rfl, rfl⟩
  · obtain ⟨used', rfl, hused'⟩ := exists_isNegation hr
    exact ⟨_, by simp, .compare hop hused hused'⟩
  · exact ⟨used, rfl, .single hused⟩
termination_by 8 * tokens.length + 2

theorem exists_isNegation {tokens rest : List Token} {e : Expression}
    (h : (negation tokens).Gives e rest) :
    ∃ used, tokens = used ++ rest ∧ IsNegation used e := by
  by_cases hnot : tokens.head? = some .not
  · obtain ⟨tail, rfl⟩ := List.head?_eq_some_iff.mp hnot
    obtain ⟨operand, rfl, ho⟩ := negation_not_gives_iff.mp h
    obtain ⟨used, rfl, hused⟩ := exists_isNegation ho
    exact ⟨_, rfl, .not hused⟩
  · rw [negation_eq_primary hnot] at h
    obtain ⟨used, rfl, hused⟩ := exists_isPrimary h
    exact ⟨used, rfl, .primary hused⟩
termination_by 8 * tokens.length + 1

theorem exists_isPrimary {tokens rest : List Token} {e : Expression}
    (h : (primary tokens).Gives e rest) :
    ∃ used, tokens = used ++ rest ∧ IsPrimary used e := by
  obtain ⟨token, tail, rfl, hbegins⟩ := exists_begins_of_primary_gives h
  cases token with
  | number n =>
    obtain ⟨rfl, rfl⟩ := primary_number_gives_iff.mp h
    exact ⟨_, rfl, .number n⟩
  | string s =>
    rw [primary_string] at h
    obtain ⟨used, hu, hused⟩ := exists_isSelection_of_more (.string s) h
    exact ⟨used, hu, .selection hused⟩
  | identifier name =>
    cases hword : Literal.ofWord? name with
    | some l =>
      obtain ⟨rfl, rfl⟩ := (primary_word_gives_iff hword).mp h
      exact ⟨_, rfl, .word hword⟩
    | none =>
      by_cases hopen : tail.head? = some .openParen
      · obtain ⟨tail, rfl⟩ := List.head?_eq_some_iff.mp hopen
        obtain ⟨es, mid, hes, hm⟩ := (primary_call_gives_iff hword).mp h
        have hfewer := hes.length_lt
        obtain ⟨args, rfl, hargs⟩ := exists_isArguments hes
        obtain ⟨used, hu, hused⟩ := exists_isSelection_of_more (.call hword hargs) hm
        exact ⟨used, by simpa using hu, .selection hused⟩
      · rw [primary_path hword hopen] at h
        obtain ⟨used, hu, hused⟩ := exists_isSelection_of_more (.path hword) h
        exact ⟨used, hu, .selection hused⟩
  | openBracket =>
    obtain ⟨es, rfl, hes⟩ := primary_openBracket_gives_iff.mp h
    obtain ⟨args, rfl, hargs⟩ := exists_isArguments hes
    exact ⟨_, by simp, .list hargs⟩
  | openParen =>
    obtain ⟨inner, mid, hi, hm⟩ := primary_openParen_gives_iff.mp h
    have hfewer := hi.length_lt
    obtain ⟨enclosed, rfl, hinner⟩ := exists_isDisjunction hi
    obtain ⟨used, hu, hused⟩ := exists_isSelection_of_more (.parentheses hinner) hm
    exact ⟨used, by simpa using hu, .selection hused⟩
  | _ => exact hbegins.elim
termination_by 8 * tokens.length + 0

theorem exists_isSelection_of_more {before tokens rest : List Token} {receiver e : Expression}
    (hreceiver : IsSelection before receiver) (h : (selections receiver tokens).Gives e rest) :
    ∃ used, before ++ tokens = used ++ rest ∧ IsSelection used e := by
  by_cases hdot : tokens.head? = some .dot
  · obtain ⟨name, tail, rfl⟩ := exists_identifier_of_selections_gives h hdot
    by_cases hopen : tail.head? = some .openParen
    · obtain ⟨tail, rfl⟩ := List.head?_eq_some_iff.mp hopen
      obtain ⟨es, mid, hes, hm⟩ := selections_call_gives_iff.mp h
      have hfewer := hes.length_lt
      obtain ⟨args, rfl, hargs⟩ := exists_isArguments hes
      simpa using exists_isSelection_of_more (.method hreceiver hargs) hm
    · obtain ⟨first, keys, rfl, hm⟩ := (selections_key_gives_iff hopen).mp h
      simpa using exists_isSelection_of_more (.key hreceiver) hm
  · obtain ⟨rfl, rfl⟩ := (selections_gives_iff hdot).mp h
    exact ⟨before, rfl, hreceiver⟩
termination_by 8 * tokens.length + 0

theorem exists_isArguments {close : Token} {tokens rest : List Token} {es : List Expression}
    (h : (arguments close tokens).Gives es rest) :
    ∃ used, tokens = used ++ close :: rest ∧ IsArguments used es := by
  by_cases hclose : tokens.head? = some close
  · obtain ⟨tail, rfl⟩ := List.head?_eq_some_iff.mp hclose
    obtain ⟨rfl, rfl⟩ := arguments_close_gives_iff.mp h
    exact ⟨[], rfl, .none⟩
  · rw [arguments_eq_items hclose] at h
    obtain ⟨used, rfl, hused⟩ := exists_isItems h
    exact ⟨used, rfl, .some hused⟩
termination_by 8 * tokens.length + 7

theorem exists_isItems {close : Token} {tokens rest : List Token} {es : List Expression}
    (h : (items close tokens).Gives es rest) :
    ∃ used, tokens = used ++ close :: rest ∧ IsItems used es := by
  obtain ⟨item, mid, hi, hm⟩ := items_gives_iff.mp h
  have hfewer := hi.length_lt
  obtain ⟨used, rfl, hused⟩ := exists_isDisjunction hi
  rcases hm with ⟨more, tail, rfl, rfl, hm⟩ | ⟨rfl, rfl, _⟩
  · obtain ⟨used', rfl, hused'⟩ := exists_isItems hm
    exact ⟨_, by simp, .cons hused hused'⟩
  · exact ⟨used, rfl, .last hused⟩
termination_by 8 * tokens.length + 6

end

/-! ## What has a derivation is read -/

/-- How tightly a token binds an expression that stands before it: not at all, as an operand of
`||`, of `&&` or of a comparison, or as the receiver of a selection or the function of a call. -/
def Token.strength : Token → Nat
  | .operator .or => 1
  | .operator .and => 2
  | .operator _ => 3
  | .dot | .openParen => 4
  | _ => 0

/-- Tokens that go on after an expression by something weaker than the level, or not at all. -/
def Ends (level : Nat) (tokens : List Token) : Prop :=
  ∀ token ∈ tokens.head?, token.strength < level

def Token.IsClosing (token : Token) : Prop :=
  token = .closeParen ∨ token = .closeBracket

variable {tokens rest : List Token} {e : Expression} {es : List Expression}

namespace Ends

variable {m n : Nat}

theorem cons {token : Token} (h : token.strength < n) : Ends n (token :: rest) := by
  rintro _ ⟨⟩
  exact h

theorem nil : Ends n [] := by
  rintro _ ⟨⟩

theorem mono (h : Ends m rest) (hmn : m ≤ n) : Ends n rest :=
  fun token ht => Nat.lt_of_lt_of_le (h token ht) hmn

theorem head?_ne (h : Ends n rest) {token : Token} (ht : n ≤ token.strength) :
    rest.head? ≠ some token :=
  fun hhead => Nat.not_lt.mpr ht (h token hhead)

end Ends

theorem strength_of_mem_comparisonOperators {op : Operator} (h : op ∈ comparisonOperators) :
    (Token.operator op).strength = 3 := by
  obtain ⟨ha, ho⟩ := mem_comparisonOperators_iff.mp h
  cases op <;> first | rfl | contradiction

theorem Ends.comparison {op : Operator} (h : op ∈ comparisonOperators) :
    Ends 4 (.operator op :: rest) := by
  apply Ends.cons
  rw [strength_of_mem_comparisonOperators h]
  decide

theorem Token.IsClosing.strength_eq {token : Token} (h : token.IsClosing) : token.strength = 0 := by
  rcases h with rfl | rfl <;> rfl

theorem Ends.moreDisjuncts_gives (h : Ends 1 rest) : (moreDisjuncts e rest).Gives e rest :=
  (moreDisjuncts_gives_iff (h.head?_ne (Nat.le_refl 1))).mpr ⟨rfl, rfl⟩

theorem Ends.moreConjuncts_gives (h : Ends 2 rest) : (moreConjuncts e rest).Gives e rest :=
  (moreConjuncts_gives_iff (h.head?_ne (Nat.le_refl 2))).mpr ⟨rfl, rfl⟩

theorem Ends.comparing?_eq_none (h : Ends 3 rest) : comparing? rest = none := by
  cases hop : comparing? rest with
  | none => rfl
  | some op =>
    obtain ⟨hmem, tail, rfl⟩ := comparing?_eq_some_iff.mp hop
    exact absurd rfl (h.head?_ne (Nat.le_of_eq (strength_of_mem_comparisonOperators hmem).symm))

theorem Ends.selections_gives (h : Ends 4 rest) : (selections e rest).Gives e rest :=
  (selections_gives_iff (h.head?_ne (Nat.le_refl 4))).mpr ⟨rfl, rfl⟩

theorem negation_gives_of_primary_gives (h : (primary tokens).Gives e rest) :
    (negation tokens).Gives e rest := by
  obtain ⟨token, tail, rfl, hbegins⟩ := exists_begins_of_primary_gives h
  rw [negation_eq_primary]
  · exact h
  · rintro ⟨⟩
    exact hbegins

theorem head?_ne_of_disjunction_gives {close : Token} (hclose : close.IsClosing)
    (h : (disjunction tokens).Gives e rest) : tokens.head? ≠ some close := by
  intro hhead
  obtain ⟨tail, rfl⟩ := List.head?_eq_some_iff.mp hhead
  obtain ⟨_, _, hconjunction, _⟩ := disjunction_gives_iff.mp h
  obtain ⟨_, _, hcomparison, _⟩ := conjunction_gives_iff.mp hconjunction
  obtain ⟨_, _, hnegation, _⟩ := comparison_gives_iff.mp hcomparison
  rcases hclose with rfl | rfl
  all_goals
    rw [negation_eq_primary (by simp)] at hnegation
    obtain ⟨_, _, htokens, hbegins⟩ := exists_begins_of_primary_gives hnegation
    cases htokens
    exact hbegins

/-! A left operand is read by the same call as the whole, which then goes on with the operator. So
the statements for levels that associate to the left speak of what is given in the end. -/

mutual

theorem IsDisjunction.gives {ts rest rest' : List Token} {e e' : Expression}
    (h : IsDisjunction ts e) (hrest : Ends 2 rest) (hm : (moreDisjuncts e rest).Gives e' rest') :
    (disjunction (ts ++ rest)).Gives e' rest' := by
  match h with
  | .single h =>
    have hconjunction := h.gives (hrest.mono (by decide)) hrest.moreConjuncts_gives
    exact disjunction_gives_iff.mpr ⟨_, _, hconjunction, hm⟩
  | .or hl hr =>
    rw [List.append_assoc]
    apply hl.gives (Ends.cons (by decide))
    have hright := hr.gives (hrest.mono (by decide)) hrest.moreConjuncts_gives
    exact moreDisjuncts_or_gives_iff.mpr ⟨_, _, hright, hm⟩

theorem IsConjunction.gives {ts rest rest' : List Token} {e e' : Expression}
    (h : IsConjunction ts e) (hrest : Ends 3 rest) (hm : (moreConjuncts e rest).Gives e' rest') :
    (conjunction (ts ++ rest)).Gives e' rest' := by
  match h with
  | .single h => exact conjunction_gives_iff.mpr ⟨_, _, h.gives hrest, hm⟩
  | .and hl hr =>
    rw [List.append_assoc]
    apply hl.gives (Ends.cons (by decide))
    exact moreConjuncts_and_gives_iff.mpr ⟨_, _, hr.gives hrest, hm⟩

theorem IsComparison.gives {ts rest : List Token} {e : Expression} (h : IsComparison ts e)
    (hrest : Ends 3 rest) : (comparison (ts ++ rest)).Gives e rest := by
  have hrest4 : Ends 4 rest := hrest.mono (by decide)
  match h with
  | .single h =>
    exact comparison_gives_iff.mpr
      ⟨_, _, h.gives hrest4, .inr ⟨hrest.comparing?_eq_none, rfl, rfl⟩⟩
  | .compare hop hl hr =>
    rw [List.append_assoc]
    exact comparison_gives_iff.mpr
      ⟨_, _, hl.gives (Ends.comparison hop), .inl ⟨_, _, _, hop, rfl, rfl, hr.gives hrest4⟩⟩

theorem IsNegation.gives {ts rest : List Token} {e : Expression} (h : IsNegation ts e)
    (hrest : Ends 4 rest) : (negation (ts ++ rest)).Gives e rest := by
  match h with
  | .primary h => exact negation_gives_of_primary_gives (h.gives hrest)
  | .not h => exact negation_not_gives_iff.mpr ⟨_, rfl, h.gives hrest⟩

theorem IsPrimary.gives {ts rest : List Token} {e : Expression} (h : IsPrimary ts e)
    (hrest : Ends 4 rest) : (primary (ts ++ rest)).Gives e rest := by
  match h with
  | .number n => exact primary_number_gives_iff.mpr ⟨rfl, rfl⟩
  | .word h => exact (primary_word_gives_iff h).mpr ⟨rfl, rfl⟩
  | .list h =>
    rw [List.cons_append, List.append_assoc]
    exact primary_openBracket_gives_iff.mpr ⟨_, rfl, h.gives (.inr rfl)⟩
  | .selection h => exact h.gives (hrest.head?_ne (by decide)) hrest.selections_gives

theorem IsSelection.gives {ts rest rest' : List Token} {e e' : Expression} (h : IsSelection ts e)
    (hrest : rest.head? ≠ some .openParen) (hm : (selections e rest).Gives e' rest') :
    (primary (ts ++ rest)).Gives e' rest' := by
  match h with
  | .string s =>
    rw [List.singleton_append, primary_string]
    exact hm
  | .path h =>
    rw [List.singleton_append, primary_path h hrest]
    exact hm
  | .call h hs =>
    rw [List.cons_append, List.cons_append, List.append_assoc]
    exact (primary_call_gives_iff h).mpr ⟨_, _, hs.gives (.inl rfl), hm⟩
  | .parentheses h =>
    rw [List.cons_append, List.append_assoc]
    have hclose : Ends 1 (.closeParen :: rest) := Ends.cons (by decide)
    have hinner := h.gives (hclose.mono (by decide)) hclose.moreDisjuncts_gives
    exact primary_openParen_gives_iff.mpr ⟨_, _, hinner, hm⟩
  | .key h =>
    rw [List.append_assoc]
    apply h.gives (by simp)
    exact (selections_key_gives_iff hrest).mpr ⟨_, _, rfl, hm⟩
  | .method h hs =>
    rw [List.append_assoc, List.cons_append, List.cons_append, List.cons_append, List.append_assoc]
    apply h.gives (by simp)
    exact selections_call_gives_iff.mpr ⟨_, _, hs.gives (.inl rfl), hm⟩

theorem IsArguments.gives {close : Token} {ts rest : List Token} {es : List Expression}
    (h : IsArguments ts es) (hclose : close.IsClosing) :
    (arguments close (ts ++ close :: rest)).Gives es rest := by
  match h with
  | .none => exact arguments_close_gives_iff.mpr ⟨rfl, rfl⟩
  | .some h =>
    have hitems : (items close (ts ++ close :: rest)).Gives es rest := h.gives hclose
    obtain ⟨_, _, hfirst, _⟩ := items_gives_iff.mp hitems
    rwa [arguments_eq_items (head?_ne_of_disjunction_gives hclose hfirst)]

theorem IsItems.gives {close : Token} {ts rest : List Token} {es : List Expression}
    (h : IsItems ts es) (hclose : close.IsClosing) :
    (items close (ts ++ close :: rest)).Gives es rest := by
  match h with
  | .last h =>
    have hend : Ends 1 (close :: rest) := Ends.cons (by simp [hclose.strength_eq])
    have hitem := h.gives (hend.mono (by decide)) hend.moreDisjuncts_gives
    have hcomma : close ≠ .comma := by rcases hclose with rfl | rfl <;> decide
    exact items_gives_iff.mpr ⟨_, _, hitem, .inr ⟨rfl, rfl, hcomma⟩⟩
  | @IsItems.cons ts us e es h hs =>
    rw [List.append_assoc]
    have hend : Ends 1 (.comma :: (us ++ close :: rest)) := Ends.cons (by decide)
    have hitem := h.gives (hend.mono (by decide)) hend.moreDisjuncts_gives
    exact items_gives_iff.mpr ⟨_, _, hitem, .inl ⟨_, _, rfl, rfl, hs.gives hclose⟩⟩

end

/-! ## Whole expressions -/

theorem ofTokens_eq_ok_iff_gives : ofTokens tokens = .ok e ↔ (disjunction tokens).Gives e [] := by
  rw [ofTokens]
  split
  · rename_i hnil
    subst hnil
    constructor
    · rintro ⟨⟩
    · intro h
      exact absurd h.length_lt (Nat.lt_irrefl 0)
  · cases hd : disjunction tokens with
    | error cause =>
      constructor
      · rintro ⟨⟩
      · intro h
        exact absurd h not_gives_error
    | ok all =>
      obtain ⟨value, mid, fewer⟩ := all
      rw [gives_ok_iff]
      cases mid with
      | nil =>
        constructor
        · rintro ⟨⟩
          exact ⟨rfl, rfl⟩
        · rintro ⟨rfl, _⟩
          rfl
      | cons token tail =>
        constructor
        · rintro ⟨⟩
        · rintro ⟨_, ⟨⟩⟩

theorem IsDisjunction.ofTokens_eq_ok (h : IsDisjunction tokens e) : ofTokens tokens = .ok e := by
  rw [ofTokens_eq_ok_iff_gives]
  have hgives := h.gives Ends.nil (Ends.moreDisjuncts_gives Ends.nil)
  rwa [List.append_nil] at hgives

theorem isDisjunction_of_ofTokens_eq_ok (h : ofTokens tokens = .ok e) :
    IsDisjunction tokens e := by
  obtain ⟨used, rfl, hused⟩ := exists_isDisjunction (ofTokens_eq_ok_iff_gives.mp h)
  rwa [List.append_nil]

/-- Exactly the tokens of the grammar are parsed, each to the expression that it derives, and no
tokens derive two expressions. -/
theorem ofTokens_eq_ok_iff_isDisjunction :
    (∀ tokens e, ofTokens tokens = .ok e ↔ IsDisjunction tokens e) ∧
      ∀ tokens e e', IsDisjunction tokens e → IsDisjunction tokens e' → e = e' := by
  refine ⟨fun tokens e => ⟨isDisjunction_of_ofTokens_eq_ok, IsDisjunction.ofTokens_eq_ok⟩, ?_⟩
  intro tokens e e' h h'
  have hok : (.ok e : Except Malformation Expression) = .ok e' :=
    h.ofTokens_eq_ok.symm.trans h'.ofTokens_eq_ok
  exact Except.ok.inj hok

end Expression

end AccessGovernance
