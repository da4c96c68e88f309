import AccessGovernance.Expression.Cursor
import AccessGovernance.Proofs.Expression.Reading

/-! # Progress of parsing by position

A run from a place among the tokens comes to what the parser reads from the tokens ahead, if its
clock has a turn for each of these tokens. For every turn goes on with fewer of them. A value leaves
the position among the tokens or at their end, and only an error can leave it one further.
-/

namespace AccessGovernance

namespace Expression

namespace Cursor

open Reading

/-- The position is among the tokens or at their end, and these are the tokens from there on. -/
structure IsAt (tokens : List Token) (start : Nat) (rest : List Token) : Prop where
  within : start ≤ tokens.length
  ahead : tokens.drop start = rest

/-- A run from a position ends as a reading of the tokens ahead does. With the same value, `least`
tokens or more have been gone through, and the tokens ahead are those that the reading leaves. With
the same error, the position has not gone back and is at most one past the end. -/
inductive Follows {α : Type} {n : Nat} (tokens : List Token) (start least : Nat) :
    Reading α n → Option (Except Malformation α × Nat) → Prop
  | value {t : Taken α n} {finish : Nat} (advanced : start + least ≤ finish)
      (within : finish ≤ tokens.length) (ahead : tokens.drop finish = t.rest) :
      Follows tokens start least (.ok t) (some (.ok t.value, finish))
  | error {cause : Malformation} {finish : Nat} (kept : start ≤ finish)
      (within : finish ≤ tokens.length + 1) :
      Follows tokens start least (.error cause) (some (.error cause, finish))

variable {α β : Type} {m n start mid clock : Nat} {tokens rest : List Token} {token : Token}

/-! ## Composition -/

theorem run_bind (x : Run α) (g : α → Run β) (start : Nat) :
    (x >>= g : Run β) start = (x start).bind fun p => ExceptT.bindCont g p.1 p.2 :=
  rfl

namespace Follows

variable {least k : Nat} {r s : Reading α m} {x y : Run α}
  {o : Option (Except Malformation α × Nat)}

theorem of_later (h : Follows tokens mid k r o) (hkept : start ≤ mid)
    (hleast : start + least ≤ mid + k) : Follows tokens start least r o := by
  cases h with
  | value advanced within ahead => exact .value (by omega) within ahead
  | error kept within => exact .error (by omega) within

/-- One token has been gone through before the run. -/
theorem next (h : Follows tokens (start + 1) k r o) (hleast : least ≤ 1 + k) :
    Follows tokens start least r o :=
  h.of_later (by omega) (by omega)

theorem bind {f : Taken α m → Reading β n} {g : α → Run β}
    (hx : Follows tokens start least r (x start))
    (hg : ∀ t mid, IsAt tokens mid t.rest →
      Follows tokens mid 0 (f t) ((g t.value : Run β) mid)) :
    Follows tokens start least (r >>= f) ((x >>= g : Run β) start) := by
  rw [run_bind]
  generalize x start = o at hx ⊢
  cases hx with
  | @value t mid advanced within ahead =>
    exact (hg t mid ⟨within, ahead⟩).of_later (by omega) (by omega)
  | error kept within => exact .error kept within

/-- The case of `bind` in which nothing more is read. -/
theorem map {f : Taken α m → Taken β n} {g : α → β}
    (hx : Follows tokens start least r (x start))
    (hf : ∀ t, (f t).value = g t.value ∧ (f t).rest = t.rest) :
    Follows tokens start least (r >>= fun t => (pure (f t) : Reading β n))
      ((do let a ← x; return g a : Run β) start) := by
  refine hx.bind fun t mid hmid => ?_
  have hvalue : Follows tokens mid 0 (.ok (f t)) (some (.ok (f t).value, mid)) :=
    .value (Nat.le_refl _) hmid.within (by rw [(hf t).2, hmid.ahead])
  rw [(hf t).1] at hvalue
  exact hvalue

theorem weaken (hx : Follows tokens start least r o) (h : m ≤ n) :
    Follows tokens start least (r >>= fun t => (pure (t.weaken h) : Reading α n)) o := by
  cases hx with
  | @value t finish advanced within ahead =>
    exact .value (t := t.weaken h) advanced within ahead
  | error kept within => exact .error kept within

theorem ite {c : Prop} [Decidable c] (hpos : c → Follows tokens start least r (x mid))
    (hneg : ¬ c → Follows tokens start least s (y mid)) :
    Follows tokens start least (if c then r else s) ((if c then x else y : Run α) mid) := by
  split
  · rename_i h
    exact hpos h
  · rename_i h
    exact hneg h

/-- A clock that suffices for more than what is ahead suffices for that after a turn. -/
theorem turn {next : (left : Nat) → left < clock → Run α} (hclock : k < clock)
    (h : ∀ left hleft, k ≤ left → Follows tokens start least r (next left hleft mid)) :
    Follows tokens start least r ((turn clock next : Run α) mid) := by
  cases clock with
  | zero => exact absurd hclock (Nat.not_lt_zero k)
  | succ left => exact h left _ (Nat.le_of_lt_succ hclock)

end Follows

/-! ## Single steps -/

theorem advance_bind (x : Run α) : (do advance; x : Run α) start = x (start + 1) :=
  rfl

namespace IsAt

theorem next (h : IsAt tokens start rest) (hhead : rest.head? = some token) :
    IsAt tokens (start + 1) rest.tail := by
  obtain ⟨tail, rfl⟩ := List.head?_eq_some_iff.mp hhead
  have hlength : (tokens.drop start).length = tail.length + 1 := by
    rw [h.ahead, List.length_cons]
  rw [List.length_drop] at hlength
  constructor
  · omega
  · rw [← List.drop_drop, h.ahead, List.drop_succ_cons, List.drop_zero, List.tail_cons]

theorem peek?_bind (h : IsAt tokens start rest) (g : Option Token → Run α) :
    (peek? tokens >>= g : Run α) start = g rest.head? start := by
  rw [← h.ahead, List.head?_drop]
  rfl

theorem next?_bind (h : IsAt tokens start rest) (g : Option Token → Run α) :
    (next? tokens >>= g : Run α) start = g rest.head? (start + 1) := by
  rw [← h.ahead, List.head?_drop]
  rfl

theorem expect_bind (h : IsAt tokens start rest) (expected : Token) (x : Run α) :
    (do expect tokens expected; x : Run α) start =
      (if rest.head? = some expected then x else throw (.expectedToken expected rest.head?) : Run α)
        (start + 1) := by
  rw [expect, bind_assoc, h.next?_bind]
  split <;> rfl

theorem follows_of_gives (h : IsAt tokens start rest) {r : Reading α n} {a : α}
    (hr : r.Gives a rest) : Follows tokens start 0 r ((pure a : Run α) start) := by
  obtain ⟨fewer, rfl⟩ := hr
  exact .value (t := ⟨a, rest, fewer⟩) (Nat.le_refl _) h.within h.ahead

theorem follows_of_throw (h : IsAt tokens start rest) (cause : Malformation) (least : Nat) :
    Follows tokens start least (throw cause : Reading α n) ((throw cause : Run α) start) :=
  .error (Nat.le_refl _) (Nat.le_succ_of_le h.within)

/-- An error about the next token leaves the position after it, or past the end. -/
theorem follows_of_throw_next (h : IsAt tokens start rest) (cause : Malformation) (least : Nat) :
    Follows tokens start least (throw cause : Reading α n) ((throw cause : Run α) (start + 1)) :=
  .error (Nat.le_succ _) (Nat.succ_le_succ h.within)

end IsAt

theorem comparing?_head? (tokens : List Token) :
    comparing? tokens.head?.toList = comparing? tokens := by
  cases tokens with
  | nil => rfl
  | cons token tail => cases token <;> rfl

/-! ## Runs and readings

The runs call each other as the functions of the parser do, and the proofs follow these calls, which
are on fewer tokens ahead or on the same tokens at a tighter level.
-/

mutual

theorem disjunction_follows {tokens rest : List Token} {start clock : Nat}
    (h : IsAt tokens start rest) (hclock : rest.length ≤ clock) :
    Follows tokens start 1 (Expression.disjunction rest) (disjunction tokens clock start) := by
  rw [Expression.disjunction, disjunction]
  refine (conjunction_follows h hclock).bind fun left mid hmid => ?_
  have hfewer := left.fewer
  exact (moreDisjuncts_follows left.value hmid (by omega)).weaken _
termination_by 8 * rest.length + 5

theorem moreDisjuncts_follows {tokens rest : List Token} {start clock : Nat} (left : Expression)
    (h : IsAt tokens start rest) (hclock : rest.length ≤ clock) :
    Follows tokens start 0 (Expression.moreDisjuncts left rest)
      (moreDisjuncts tokens clock left start) := by
  rw [moreDisjuncts, h.peek?_bind]
  by_cases hor : rest.head? = some (.operator .or)
  · obtain ⟨tail, rfl⟩ := List.head?_eq_some_iff.mp hor
    rw [if_pos hor, Expression.moreDisjuncts]
    refine .turn hclock fun clock _ hclock => ?_
    rw [advance_bind]
    refine Follows.next (k := 1) ?_ (Nat.zero_le _)
    refine (conjunction_follows (h.next hor) hclock).bind fun right mid hmid => ?_
    have hfewer : right.rest.length < tail.length := right.fewer
    have hlength : (Token.operator .or :: tail).length = tail.length + 1 := rfl
    exact (moreDisjuncts_follows _ hmid (by omega)).weaken _
  · rw [if_neg hor]
    exact h.follows_of_gives ((moreDisjuncts_gives_iff hor).mpr ⟨rfl, rfl⟩)
termination_by 8 * rest.length + 4

theorem conjunction_follows {tokens rest : List Token} {start clock : Nat}
    (h : IsAt tokens start rest) (hclock : rest.length ≤ clock) :
    Follows tokens start 1 (Expression.conjunction rest) (conjunction tokens clock start) := by
  rw [Expression.conjunction, conjunction]
  refine (comparison_follows h hclock).bind fun left mid hmid => ?_
  have hfewer := left.fewer
  exact (moreConjuncts_follows left.value hmid (by omega)).weaken _
termination_by 8 * rest.length + 3

theorem moreConjuncts_follows {tokens rest : List Token} {start clock : Nat} (left : Expression)
    (h : IsAt tokens start rest) (hclock : rest.length ≤ clock) :
    Follows tokens start 0 (Expression.moreConjuncts left rest)
      (moreConjuncts tokens clock left start) := by
  rw [moreConjuncts, h.peek?_bind]
  by_cases hand : rest.head? = some (.operator .and)
  · obtain ⟨tail, rfl⟩ := List.head?_eq_some_iff.mp hand
    rw [if_pos hand, Expression.moreConjuncts]
    refine .turn hclock fun clock _ hclock => ?_
    rw [advance_bind]
    refine Follows.next (k := 1) ?_ (Nat.zero_le _)
    refine (comparison_follows (h.next hand) hclock).bind fun right mid hmid => ?_
    have hfewer : right.rest.length < tail.length := right.fewer
    have hlength : (Token.operator .and :: tail).length = tail.length + 1 := rfl
    exact (moreConjuncts_follows _ hmid (by omega)).weaken _
  · rw [if_neg hand]
    exact h.follows_of_gives ((moreConjuncts_gives_iff hand).mpr ⟨rfl, rfl⟩)
termination_by 8 * rest.length + 2

theorem comparison_follows {tokens rest : List Token} {start clock : Nat}
    (h : IsAt tokens start rest) (hclock : rest.length ≤ clock) :
    Follows tokens start 1 (Expression.comparison rest) (comparison tokens clock start) := by
  rw [Expression.comparison, comparison]
  refine (negation_follows h hclock).bind fun left mid hmid => ?_
  have hfewer := left.fewer
  rw [hmid.peek?_bind, comparing?_head?]
  cases hop : comparing? left.rest with
  | none => exact hmid.follows_of_gives ⟨hfewer, rfl⟩
  | some op =>
    obtain ⟨_, tail, htail⟩ := comparing?_eq_some_iff.mp hop
    have hhead : left.rest.head? = some (.operator op) := by rw [htail, List.head?_cons]
    have hlength : left.rest.tail.length < rest.length := by
      rw [List.length_tail]
      omega
    refine Follows.next (k := 1) ?_ (Nat.zero_le _)
    exact (negation_follows (hmid.next hhead) (by omega)).map fun _ => ⟨rfl, rfl⟩
termination_by 8 * rest.length + 2

theorem negation_follows {tokens rest : List Token} {start clock : Nat}
    (h : IsAt tokens start rest) (hclock : rest.length ≤ clock) :
    Follows tokens start 1 (Expression.negation rest) (negation tokens clock start) := by
  rw [negation, h.peek?_bind]
  by_cases hnot : rest.head? = some .not
  · obtain ⟨tail, rfl⟩ := List.head?_eq_some_iff.mp hnot
    rw [if_pos hnot, Expression.negation]
    refine .turn hclock fun clock _ hclock => ?_
    rw [advance_bind]
    refine Follows.next (k := 1) ?_ (Nat.le_add_right 1 1)
    exact (negation_follows (h.next hnot) hclock).map fun _ => ⟨rfl, rfl⟩
  · rw [if_neg hnot, negation_eq_primary hnot]
    exact primary_follows h hclock
termination_by 8 * rest.length + 1

theorem primary_follows {tokens rest : List Token} {start clock : Nat}
    (h : IsAt tokens start rest) (hclock : rest.length ≤ clock) :
    Follows tokens start 1 (Expression.primary rest) (primary tokens clock start) := by
  rw [primary, h.next?_bind, Expression.primary.eq_def]
  cases rest with
  | nil => exact h.follows_of_throw_next _ _
  | cons token tail =>
    have hnext : IsAt tokens (start + 1) tail := h.next rfl
    have hlength : (token :: tail).length = tail.length + 1 := rfl
    cases token with
    | number n =>
      refine Follows.next (k := 0) ?_ (Nat.le_refl _)
      exact hnext.follows_of_gives ⟨_, rfl⟩
    | string s =>
      refine Follows.next (k := 0) ?_ (Nat.le_refl _)
      exact selections_follows _ hnext (by omega)
    | identifier name =>
      refine Follows.next (k := 0) ?_ (Nat.le_refl _)
      have hword : ∀ l : Literal,
          Follows tokens (start + 1) 0
            (.ok ⟨.literal l, tail, Nat.lt_succ_self _⟩ : Reading Expression (tail.length + 1))
            ((pure (.literal l) : Run Expression) (start + 1)) :=
        fun l => hnext.follows_of_gives ⟨_, rfl⟩
      refine .ite (fun _ => hword _) fun _ => .ite (fun _ => hword _) fun _ =>
        .ite (fun _ => hword _) fun _ => ?_
      rw [hnext.peek?_bind]
      refine .ite (fun hopen => ?_) fun _ => selections_follows _ hnext (by omega)
      have htail := tail.length_tail
      refine .turn hclock fun clock _ hclock => ?_
      rw [advance_bind]
      refine Follows.next (k := 1) ?_ (Nat.zero_le _)
      refine (arguments_follows _ (hnext.next hopen) (by omega)).bind fun args mid hmid => ?_
      have hfewer := args.fewer
      exact (selections_follows _ hmid (by omega)).weaken _
    | openBracket =>
      refine Follows.next (k := 1) ?_ (Nat.le_add_right 1 1)
      refine .turn hclock fun clock _ hclock => ?_
      exact (arguments_follows _ hnext hclock).map fun _ => ⟨rfl, rfl⟩
    | openParen =>
      refine Follows.next (k := 1) ?_ (Nat.le_add_right 1 1)
      refine .turn hclock fun clock _ hclock => ?_
      refine (disjunction_follows hnext hclock).bind fun inner mid hmid => ?_
      have htail := inner.rest.length_tail
      have hfewer := inner.fewer
      rw [hmid.expect_bind]
      refine .ite (fun hclose => ?_) fun _ => hmid.follows_of_throw_next _ _
      refine Follows.next (k := 0) ?_ (Nat.zero_le _)
      exact (selections_follows _ (hmid.next hclose) (by omega)).weaken _
    | _ => exact h.follows_of_throw_next _ _
termination_by 8 * rest.length + 0

theorem selections_follows {tokens rest : List Token} {start clock : Nat} (receiver : Expression)
    (h : IsAt tokens start rest) (hclock : rest.length ≤ clock) :
    Follows tokens start 0 (Expression.selections receiver rest)
      (selections tokens clock receiver start) := by
  rw [selections, h.peek?_bind]
  by_cases hdot : rest.head? = some .dot
  · obtain ⟨tail, rfl⟩ := List.head?_eq_some_iff.mp hdot
    have hname : IsAt tokens (start + 1) tail := h.next hdot
    rw [if_pos hdot, Expression.selections.eq_def]
    refine .turn hclock fun clock _ hclock => ?_
    rw [advance_bind, hname.next?_bind]
    refine Follows.next (k := 0) ?_ (Nat.zero_le _)
    cases tail with
    | nil => exact hname.follows_of_throw_next _ _
    | cons token tail =>
      cases token with
      | identifier name =>
        have hnext : IsAt tokens (start + 1 + 1) tail := hname.next rfl
        have hlength : (Token.dot :: .identifier name :: tail).length = tail.length + 2 := rfl
        have hclock : tail.length < clock := hclock
        refine Follows.next (k := 0) ?_ (Nat.zero_le _)
        simp only [List.head?_cons]
        rw [hnext.peek?_bind]
        refine .ite (fun hopen => ?_) fun _ => ?_
        · have htail := tail.length_tail
          rw [advance_bind]
          refine Follows.next (k := 1) ?_ (Nat.zero_le _)
          refine (arguments_follows _ (hnext.next hopen) (by omega)).bind fun args mid hmid => ?_
          have hfewer := args.fewer
          exact (selections_follows _ hmid (by omega)).weaken _
        · cases select? name receiver with
          | some selected => exact (selections_follows _ hnext (by omega)).weaken _
          | none => exact hnext.follows_of_throw _ _
      | _ => exact hname.follows_of_throw_next _ _
  · rw [if_neg hdot]
    exact h.follows_of_gives ((selections_gives_iff hdot).mpr ⟨rfl, rfl⟩)
termination_by 8 * rest.length + 0

theorem arguments_follows {tokens rest : List Token} {start clock : Nat} (close : Token)
    (h : IsAt tokens start rest) (hclock : rest.length ≤ clock) :
    Follows tokens start 1 (Expression.arguments close rest)
      (arguments tokens clock close start) := by
  rw [arguments, h.peek?_bind]
  by_cases hclose : rest.head? = some close
  · obtain ⟨tail, rfl⟩ := List.head?_eq_some_iff.mp hclose
    rw [if_pos hclose, advance_bind, Expression.arguments, if_pos rfl]
    refine Follows.next (k := 0) ?_ (Nat.le_refl _)
    exact (h.next hclose).follows_of_gives ⟨_, rfl⟩
  · rw [if_neg hclose, arguments_eq_items hclose]
    exact items_follows close h hclock
termination_by 8 * rest.length + 7

theorem items_follows {tokens rest : List Token} {start clock : Nat} (close : Token)
    (h : IsAt tokens start rest) (hclock : rest.length ≤ clock) :
    Follows tokens start 1 (Expression.items close rest) (items tokens clock close start) := by
  rw [Expression.items, items]
  refine (disjunction_follows h hclock).bind fun item mid hmid => ?_
  have hfewer := item.fewer
  have htail := item.rest.length_tail
  rw [hmid.next?_bind]
  refine .ite (fun hcomma => ?_) fun _ => .ite (fun hclose => ?_) fun _ => ?_
  · refine Follows.next (k := 1) ?_ (Nat.zero_le _)
    refine .turn (k := item.rest.tail.length) (by omega) fun clock _ hclock => ?_
    exact (items_follows close (hmid.next hcomma) hclock).map fun _ => ⟨rfl, rfl⟩
  · refine Follows.next (k := 0) ?_ (Nat.zero_le _)
    exact (hmid.next hclose).follows_of_gives ⟨_, rfl⟩
  · exact hmid.follows_of_throw_next _ _
termination_by 8 * rest.length + 6

end

/-! ## Whole expressions -/

theorem exists_finish_of_ofTokens (hclock : tokens.length ≤ clock) :
    ∃ finish, ofTokens tokens clock 0 = some (Expression.ofTokens tokens, finish) ∧
      finish ≤ tokens.length + 1 ∧
      ∀ e, Expression.ofTokens tokens = .ok e → finish = tokens.length := by
  rw [ofTokens, Expression.ofTokens]
  split
  · refine ⟨0, rfl, Nat.zero_le _, ?_⟩
    rintro e ⟨⟩
  · have hstart : IsAt tokens 0 tokens := ⟨Nat.zero_le _, rfl⟩
    have h := disjunction_follows hstart hclock
    rw [run_bind]
    generalize Expression.disjunction tokens = r at h ⊢
    generalize disjunction tokens clock 0 = o at h ⊢
    cases h with
    | @error cause finish kept within =>
      refine ⟨finish, rfl, within, ?_⟩
      rintro e ⟨⟩
    | @value t finish advanced within ahead =>
      have hat : IsAt tokens finish t.rest := ⟨within, ahead⟩
      refine ⟨finish, (hat.peek?_bind _).trans ?_, Nat.le_succ_of_le within, ?_⟩
      · obtain ⟨value, _ | ⟨token, tail⟩, fewer⟩ := t <;> rfl
      · intro e he
        obtain ⟨value, _ | ⟨token, tail⟩, fewer⟩ := t
        · exact Nat.le_antisymm within (List.drop_eq_nil_iff.mp ahead)
        · cases he

-- Where the operand is missing, the position is left one past the end.
example : ofTokens [.not] 1 0 = some (.error (.unexpectedToken none), 2) := by cbv

/-- From any position among the tokens or at their end, every function comes to the outcome of the
parser on the tokens ahead, as no more turns are nested than there are such tokens. A value has
taken one token at least, or possibly none where only further operands or selections are looked
for, and no more than there are. A whole run comes to what the parser gives. Its position is at the
end if that is an expression, and at most one past the end otherwise. -/
theorem run_progress (tokens : List Token) :
    (∀ start rest clock, IsAt tokens start rest → rest.length ≤ clock →
      Follows tokens start 1 (Expression.disjunction rest) (disjunction tokens clock start) ∧
      Follows tokens start 1 (Expression.conjunction rest) (conjunction tokens clock start) ∧
      Follows tokens start 1 (Expression.comparison rest) (comparison tokens clock start) ∧
      Follows tokens start 1 (Expression.negation rest) (negation tokens clock start) ∧
      Follows tokens start 1 (Expression.primary rest) (primary tokens clock start) ∧
      (∀ left, Follows tokens start 0 (Expression.moreDisjuncts left rest)
        (moreDisjuncts tokens clock left start)) ∧
      (∀ left, Follows tokens start 0 (Expression.moreConjuncts left rest)
        (moreConjuncts tokens clock left start)) ∧
      (∀ receiver, Follows tokens start 0 (Expression.selections receiver rest)
        (selections tokens clock receiver start)) ∧
      (∀ close, Follows tokens start 1 (Expression.arguments close rest)
        (arguments tokens clock close start)) ∧
      ∀ close, Follows tokens start 1 (Expression.items close rest)
        (items tokens clock close start)) ∧
    ∀ clock, tokens.length ≤ clock →
      ∃ finish, ofTokens tokens clock 0 = some (Expression.ofTokens tokens, finish) ∧
        finish ≤ tokens.length + 1 ∧
        ∀ e, Expression.ofTokens tokens = .ok e → finish = tokens.length := by
  refine ⟨fun start rest clock h hclock => ?_, fun clock => exists_finish_of_ofTokens⟩
  exact ⟨disjunction_follows h hclock, conjunction_follows h hclock, comparison_follows h hclock,
    negation_follows h hclock, primary_follows h hclock,
    fun left => moreDisjuncts_follows left h hclock,
    fun left => moreConjuncts_follows left h hclock,
    fun receiver => selections_follows receiver h hclock,
    fun close => arguments_follows close h hclock, fun close => items_follows close h hclock⟩

end Cursor

end Expression

end AccessGovernance
