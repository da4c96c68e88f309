/-! # What is left of a text

A reader takes characters from the front of a text. What it leaves comes with a proof that it is no
longer than the text, so that reading again and again comes to an end.
-/

namespace AccessGovernance.Text

theorem length_dropWhile_le (p : Char → Bool) (s : List Char) :
    (s.dropWhile p).length ≤ s.length :=
  (List.dropWhile_suffix p).length_le

section Span

variable {p : Char → Bool} {s t : List Char} (hs : ∀ c ∈ s, p c = true)
  (ht : ∀ c ∈ t.head?, p c = false)
include hs ht

theorem takeWhile_append_of_head : (s ++ t).takeWhile p = s := by
  rw [List.takeWhile_append_of_pos hs]
  cases t with
  | nil => exact List.append_nil s
  | cons c t =>
    rw [List.takeWhile_cons, ht c rfl]
    exact List.append_nil s

theorem dropWhile_append_of_head : (s ++ t).dropWhile p = t := by
  rw [List.dropWhile_append_of_pos hs]
  cases t with
  | nil => rfl
  | cons c t =>
    rw [List.dropWhile_cons, ht c rfl]
    rfl

end Span

abbrev Rest (text : List Char) :=
  { rest : List Char // rest.length ≤ text.length }

namespace Rest

def all (text : List Char) : Rest text :=
  ⟨text, Nat.le_refl _⟩

def dropWhile (p : Char → Bool) (text : List Char) : Rest text :=
  ⟨text.dropWhile p, length_dropWhile_le p text⟩

/-- The text without a character that it must start with. -/
def after? (c : Char) : (text : List Char) → Option (Rest text)
  | [] => none
  | d :: rest => if d = c then some ⟨rest, by simp⟩ else none

theorem after?_eq_none {c : Char} {text : List Char} (h : ∀ d ∈ text.head?, d ≠ c) :
    after? c text = none := by
  cases text with
  | nil => rfl
  | cons d text => exact if_neg (h d rfl)

end Rest

end AccessGovernance.Text
