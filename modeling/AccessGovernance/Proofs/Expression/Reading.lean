import AccessGovernance.Expression.Parser
import AccessGovernance.Proofs.Expression.Grammar

/-! # What is read from the front of tokens

A reading is known by the value that it gives and the tokens that it leaves. For each level of the
grammar there are laws that say when a reading of that level gives a value, in terms of readings of
the next level and of what follows. No later proof opens a reading.
-/

namespace AccessGovernance

namespace Expression

namespace Reading

variable {α β : Type} {m n : Nat} {rest : List Token}

/-- The reading succeeds with this value and leaves these tokens. -/
def Gives (r : Reading α n) (a : α) (rest : List Token) : Prop :=
  ∃ fewer, r = .ok ⟨a, rest, fewer⟩

theorem Gives.length_lt {r : Reading α n} {a : α} (h : r.Gives a rest) : rest.length < n :=
  h.1

theorem gives_ok_iff {t : Taken α n} {a : α} :
    Gives (.ok t) a rest ↔ a = t.value ∧ rest = t.rest := by
  constructor
  · rintro ⟨_, h⟩
    obtain rfl := Except.ok.inj h
    exact ⟨rfl, rfl⟩
  · rintro ⟨rfl, rfl⟩
    exact ⟨t.fewer, rfl⟩

theorem not_gives_error {cause : Malformation} {a : α} :
    ¬ Gives (.error cause : Reading α n) a rest := by
  rintro ⟨_, h⟩
  cases h

theorem gives_bind_iff {r : Reading α m} {f : Taken α m → Reading β n} {b : β}
    {P : α → List Token → Prop} (hf : ∀ t, (f t).Gives b rest ↔ P t.value t.rest) :
    Gives (r >>= f) b rest ↔ ∃ a mid, r.Gives a mid ∧ P a mid := by
  cases r with
  | error cause =>
    constructor
    · intro h
      exact absurd h not_gives_error
    · rintro ⟨_, _, h, _⟩
      exact absurd h not_gives_error
  | ok t =>
    constructor
    · intro h
      exact ⟨t.value, t.rest, ⟨t.fewer, rfl⟩, (hf t).mp h⟩
    · rintro ⟨a, mid, h, hp⟩
      obtain ⟨rfl, rfl⟩ := gives_ok_iff.mp h
      exact (hf t).mpr hp

/-- The case of `gives_bind_iff` in which nothing more is read. -/
theorem gives_map_iff {r : Reading α m} {f : Taken α m → Taken β n} {g : α → β} {b : β}
    (hf : ∀ t, (f t).value = g t.value ∧ (f t).rest = t.rest) :
    Gives (r >>= fun t => (pure (f t) : Reading β n)) b rest ↔ ∃ a, b = g a ∧ r.Gives a rest := by
  rw [gives_bind_iff (P := fun a mid => b = g a ∧ rest = mid) fun t => by
    rw [← (hf t).1, ← (hf t).2]
    exact gives_ok_iff]
  constructor
  · rintro ⟨a, _, h, rfl, rfl⟩
    exact ⟨a, rfl, h⟩
  · rintro ⟨a, rfl, h⟩
    exact ⟨a, rest, h, rfl, rfl⟩

theorem gives_weaken_iff {r : Reading α m} {a : α} (h : m ≤ n) :
    Gives (r >>= fun t => (pure (t.weaken h) : Reading α n)) a rest ↔ r.Gives a rest := by
  have hmap : Gives (r >>= fun t => (pure (t.weaken h) : Reading α n)) a rest ↔
      ∃ b, a = id b ∧ r.Gives b rest := gives_map_iff fun _ => ⟨rfl, rfl⟩
  simpa using hmap

end Reading

open Reading

variable {tokens tail rest : List Token} {e left receiver : Expression} {es : List Expression}
  {name : String} {close : Token}

/-! ## Connectives -/

theorem disjunction_gives_iff : (disjunction tokens).Gives e rest ↔
    ∃ left mid, (conjunction tokens).Gives left mid ∧ (moreDisjuncts left mid).Gives e rest := by
  rw [disjunction]
  exact gives_bind_iff fun _ => gives_weaken_iff _

theorem moreDisjuncts_or_gives_iff : (moreDisjuncts left (.operator .or :: tail)).Gives e rest ↔
    ∃ right mid, (conjunction tail).Gives right mid ∧
      (moreDisjuncts (.binary .or left right) mid).Gives e rest := by
  rw [moreDisjuncts]
  exact gives_bind_iff fun _ => gives_weaken_iff _

theorem moreDisjuncts_gives_iff (h : tokens.head? ≠ some (.operator .or)) :
    (moreDisjuncts left tokens).Gives e rest ↔ e = left ∧ rest = tokens := by
  rw [moreDisjuncts.eq_def]
  split
  · simp at h
  · exact gives_ok_iff

theorem conjunction_gives_iff : (conjunction tokens).Gives e rest ↔
    ∃ left mid, (comparison tokens).Gives left mid ∧ (moreConjuncts left mid).Gives e rest := by
  rw [conjunction]
  exact gives_bind_iff fun _ => gives_weaken_iff _

theorem moreConjuncts_and_gives_iff : (moreConjuncts left (.operator .and :: tail)).Gives e rest ↔
    ∃ right mid, (comparison tail).Gives right mid ∧
      (moreConjuncts (.binary .and left right) mid).Gives e rest := by
  rw [moreConjuncts]
  exact gives_bind_iff fun _ => gives_weaken_iff _

theorem moreConjuncts_gives_iff (h : tokens.head? ≠ some (.operator .and)) :
    (moreConjuncts left tokens).Gives e rest ↔ e = left ∧ rest = tokens := by
  rw [moreConjuncts.eq_def]
  split
  · simp at h
  · exact gives_ok_iff

/-! ## Comparisons and negations -/

theorem comparing?_eq_some_iff {op : Operator} :
    comparing? tokens = some op ↔
      op ∈ comparisonOperators ∧ ∃ tail, tokens = .operator op :: tail := by
  rw [mem_comparisonOperators_iff]
  constructor
  · intro h
    unfold comparing? at h
    split at h
    · rename_i op' tail
      split at h
      · cases h
      · rename_i hop
        obtain rfl := Option.some.inj h
        exact ⟨not_or.mp hop, tail, rfl⟩
    · cases h
  · rintro ⟨hop, tail, rfl⟩
    exact if_neg (not_or.mpr hop)

theorem comparison_gives_iff : (comparison tokens).Gives e rest ↔
    ∃ left mid, (negation tokens).Gives left mid ∧
      ((∃ op tail right, op ∈ comparisonOperators ∧ mid = .operator op :: tail ∧
          e = .binary op left right ∧ (negation tail).Gives right rest) ∨
        (comparing? mid = none ∧ e = left ∧ rest = mid)) := by
  rw [comparison]
  refine gives_bind_iff (P := fun left mid =>
    (∃ op tail right, op ∈ comparisonOperators ∧ mid = .operator op :: tail ∧
        e = .binary op left right ∧ (negation tail).Gives right rest) ∨
      (comparing? mid = none ∧ e = left ∧ rest = mid)) fun t => ?_
  obtain ⟨left, mid, fewer⟩ := t
  cases hop : comparing? mid with
  | none =>
    refine gives_ok_iff.trans ⟨fun h => .inr ⟨rfl, h⟩, ?_⟩
    rintro (⟨op, tail, _, hmem, hmid, _⟩ | ⟨_, h⟩)
    · rw [comparing?_eq_some_iff.mpr ⟨hmem, tail, hmid⟩] at hop
      cases hop
    · exact h
  | some op =>
    obtain ⟨hmem, tail, rfl⟩ := comparing?_eq_some_iff.mp hop
    refine Iff.trans (gives_map_iff (g := .binary op left) fun _ => ⟨rfl, rfl⟩) ⟨?_, ?_⟩
    · rintro ⟨right, he, hr⟩
      exact .inl ⟨op, tail, right, hmem, rfl, he, hr⟩
    · rintro (⟨op', tail', right, _, hmid, he, hr⟩ | ⟨hnone, _⟩)
      · cases hmid
        exact ⟨right, he, hr⟩
      · cases hnone

theorem negation_not_gives_iff : (negation (.not :: tail)).Gives e rest ↔
    ∃ operand, e = .not operand ∧ (negation tail).Gives operand rest := by
  rw [negation]
  exact gives_map_iff fun _ => ⟨rfl, rfl⟩

theorem negation_eq_primary (h : tokens.head? ≠ some .not) : negation tokens = primary tokens := by
  rw [negation.eq_def]
  split
  · simp at h
  · rfl

/-! ## Primary expressions and selections -/

/-- The tokens that a primary expression can begin with. -/
def Token.Begins : Token → Prop
  | .number _ | .string _ | .identifier _ | .openBracket | .openParen => True
  | .operator _ | .not | .dot | .comma | .closeParen | .closeBracket => False

theorem exists_begins_of_primary_gives (h : (primary tokens).Gives e rest) :
    ∃ token tail, tokens = token :: tail ∧ token.Begins := by
  rw [primary.eq_def] at h
  split at h
  case h_6 => exact absurd h not_gives_error
  all_goals exact ⟨_, _, rfl, trivial⟩

theorem primary_number_gives_iff {n : Number} :
    (primary (.number n :: tail)).Gives e rest ↔ e = .literal (.number n) ∧ rest = tail := by
  rw [primary]
  exact gives_ok_iff

theorem primary_string (s : String) :
    primary (.string s :: tail) = selections (.literal (.string s)) tail := by
  rw [primary]

theorem primary_word_gives_iff {l : Literal} (h : Literal.ofWord? name = some l) :
    (primary (.identifier name :: tail)).Gives e rest ↔ e = .literal l ∧ rest = tail := by
  rw [primary]
  rcases Literal.ofWord?_eq_some h with ⟨rfl, rfl⟩ | ⟨rfl, rfl⟩ | ⟨rfl, rfl⟩
  · rw [if_pos rfl]
    exact gives_ok_iff
  · rw [if_neg (by decide), if_pos rfl]
    exact gives_ok_iff
  · rw [if_neg (by decide), if_neg (by decide), if_pos rfl]
    exact gives_ok_iff

theorem primary_call_gives_iff (h : Literal.ofWord? name = none) :
    (primary (.identifier name :: .openParen :: tail)).Gives e rest ↔
      ∃ es mid, (arguments .closeParen tail).Gives es mid ∧
        (selections (.call name es) mid).Gives e rest := by
  obtain ⟨ht, hf, hn⟩ := Literal.ofWord?_eq_none_iff.mp h
  rw [primary, if_neg ht, if_neg hf, if_neg hn, if_pos List.head?_cons]
  exact gives_bind_iff fun _ => gives_weaken_iff _

theorem primary_path (h : Literal.ofWord? name = none) (hp : tail.head? ≠ some .openParen) :
    primary (.identifier name :: tail) = selections (.path name []) tail := by
  obtain ⟨ht, hf, hn⟩ := Literal.ofWord?_eq_none_iff.mp h
  rw [primary, if_neg ht, if_neg hf, if_neg hn, if_neg hp]

theorem primary_openBracket_gives_iff : (primary (.openBracket :: tail)).Gives e rest ↔
    ∃ es, e = .list es ∧ (arguments .closeBracket tail).Gives es rest := by
  rw [primary]
  exact gives_map_iff fun _ => ⟨rfl, rfl⟩

theorem primary_openParen_gives_iff : (primary (.openParen :: tail)).Gives e rest ↔
    ∃ inner mid, (disjunction tail).Gives inner (.closeParen :: mid) ∧
      (selections inner mid).Gives e rest := by
  rw [primary]
  refine Iff.trans (gives_bind_iff (P := fun inner mid => ∃ after, mid = .closeParen :: after ∧
    (selections inner after).Gives e rest) fun t => ?_) ⟨?_, ?_⟩
  · obtain ⟨inner, mid, fewer⟩ := t
    by_cases hclose : mid.head? = some .closeParen
    · obtain ⟨after, rfl⟩ := List.head?_eq_some_iff.mp hclose
      rw [if_pos hclose, gives_weaken_iff]
      constructor
      · intro h
        exact ⟨after, rfl, h⟩
      · rintro ⟨_, hmid, h⟩
        cases hmid
        exact h
    · rw [if_neg hclose]
      refine ⟨fun h => absurd h not_gives_error, ?_⟩
      rintro ⟨after, rfl, _⟩
      exact absurd rfl hclose
  · rintro ⟨inner, _, hi, mid, rfl, hs⟩
    exact ⟨inner, mid, hi, hs⟩
  · rintro ⟨inner, mid, hi, hs⟩
    exact ⟨inner, _, hi, mid, rfl, hs⟩

theorem selections_call_gives_iff :
    (selections receiver (.dot :: .identifier name :: .openParen :: tail)).Gives e rest ↔
      ∃ es mid, (arguments .closeParen tail).Gives es mid ∧
        (selections (.call name (receiver :: es)) mid).Gives e rest := by
  rw [selections, if_pos List.head?_cons]
  exact gives_bind_iff fun _ => gives_weaken_iff _

theorem select?_eq_some_iff {selected : Expression} :
    select? name receiver = some selected ↔
      ∃ first keys, receiver = .path first keys ∧ selected = .path first (keys ++ [name]) := by
  constructor
  · intro h
    cases receiver with
    | path first keys => exact ⟨first, keys, rfl, (Option.some.inj h).symm⟩
    | _ => cases h
  · rintro ⟨first, keys, rfl, rfl⟩
    rfl

theorem selections_key_gives_iff (hp : tail.head? ≠ some .openParen) :
    (selections receiver (.dot :: .identifier name :: tail)).Gives e rest ↔
      ∃ first keys, receiver = .path first keys ∧
        (selections (.path first (keys ++ [name])) tail).Gives e rest := by
  rw [selections, if_neg hp]
  cases hs : select? name receiver with
  | none =>
    constructor
    · intro h
      exact absurd h not_gives_error
    · rintro ⟨first, keys, rfl, _⟩
      cases hs
  | some selected =>
    obtain ⟨first, keys, rfl, rfl⟩ := select?_eq_some_iff.mp hs
    rw [gives_weaken_iff]
    constructor
    · intro h
      exact ⟨first, keys, rfl, h⟩
    · rintro ⟨_, _, hpath, h⟩
      cases hpath
      exact h

theorem selections_gives_iff (h : tokens.head? ≠ some .dot) :
    (selections receiver tokens).Gives e rest ↔ e = receiver ∧ rest = tokens := by
  rw [selections.eq_def]
  split
  · simp at h
  · simp at h
  · exact gives_ok_iff

theorem exists_identifier_of_selections_gives (h : (selections receiver tokens).Gives e rest)
    (hdot : tokens.head? = some .dot) : ∃ name tail, tokens = .dot :: .identifier name :: tail := by
  rw [selections.eq_def] at h
  split at h
  · exact ⟨_, _, rfl⟩
  · exact absurd h not_gives_error
  · rename_i hno
    obtain ⟨tail, rfl⟩ := List.head?_eq_some_iff.mp hdot
    exact absurd rfl (hno tail)

/-! ## Arguments -/

theorem arguments_close_gives_iff :
    (arguments close (close :: tail)).Gives es rest ↔ es = [] ∧ rest = tail := by
  rw [arguments, if_pos rfl]
  exact gives_ok_iff

theorem arguments_eq_items (h : tokens.head? ≠ some close) :
    arguments close tokens = items close tokens := by
  cases tokens with
  | nil => rw [arguments]
  | cons token tail => rw [arguments, if_neg (by simpa using h)]

theorem items_gives_iff : (items close tokens).Gives es rest ↔
    ∃ item mid, (disjunction tokens).Gives item mid ∧
      ((∃ more tail, es = item :: more ∧ mid = .comma :: tail ∧
          (items close tail).Gives more rest) ∨
        (es = [item] ∧ mid = close :: rest ∧ close ≠ .comma)) := by
  rw [items]
  refine gives_bind_iff (P := fun item mid =>
    (∃ more tail, es = item :: more ∧ mid = .comma :: tail ∧
        (items close tail).Gives more rest) ∨
      (es = [item] ∧ mid = close :: rest ∧ close ≠ .comma)) fun t => ?_
  obtain ⟨item, mid, fewer⟩ := t
  by_cases hcomma : mid.head? = some .comma
  · obtain ⟨tail, rfl⟩ := List.head?_eq_some_iff.mp hcomma
    rw [if_pos hcomma]
    refine Iff.trans (gives_map_iff (g := (item :: ·)) fun _ => ⟨rfl, rfl⟩) ⟨?_, ?_⟩
    · rintro ⟨more, he, hm⟩
      exact .inl ⟨more, tail, he, rfl, hm⟩
    · rintro (⟨more, tail', he, hmid, hm⟩ | ⟨_, hmid, hne⟩)
      · cases hmid
        exact ⟨more, he, hm⟩
      · exact absurd (List.cons.inj hmid).1.symm hne
  · rw [if_neg hcomma]
    by_cases hclose : mid.head? = some close
    · obtain ⟨tail, rfl⟩ := List.head?_eq_some_iff.mp hclose
      rw [if_pos hclose]
      refine gives_ok_iff.trans ⟨?_, ?_⟩
      · rintro ⟨rfl, rfl⟩
        exact .inr ⟨rfl, rfl, fun hc => hcomma (congrArg some hc)⟩
      · rintro (⟨_, tail', _, hmid, _⟩ | ⟨rfl, hmid, _⟩)
        · exact absurd (congrArg List.head? hmid) hcomma
        · cases hmid
          exact ⟨rfl, rfl⟩
    · rw [if_neg hclose]
      refine ⟨fun h => absurd h not_gives_error, ?_⟩
      rintro (⟨_, tail, _, rfl, _⟩ | ⟨_, rfl, _⟩)
      · exact absurd rfl hcomma
      · exact absurd rfl hclose

end Expression

end AccessGovernance
