import AccessGovernance.Text.LowerCase.Lemmas

/-! # Canonical names

Names are compared trimmed and in lower case. The canonical form is a fixed point of both, and it
has the separators of the name inside its blank ends.
-/

namespace AccessGovernance.Text

def canonical (s : List Char) : List Char :=
  lower (trim s)

/-- The canonical form, unless it is empty or has the separator in it. -/
def canonicalWithout? (sep : Char) (s : List Char) : Option (List Char) :=
  if canonical s = [] ∨ sep ∈ canonical s then none else some (canonical s)

@[simp] theorem canonical_canonical (s : List Char) : canonical (canonical s) = canonical s := by
  simp [canonical]

@[simp] theorem trim_canonical (s : List Char) : trim (canonical s) = canonical s :=
  trim_lower_trim s

@[simp] theorem lower_canonical (s : List Char) : lower (canonical s) = canonical s :=
  lower_lower _

theorem canonicalWithout?_eq_some_iff {sep : Char} {s t : List Char} :
    canonicalWithout? sep s = some t ↔ t = canonical s ∧ t ≠ [] ∧ sep ∉ t := by
  unfold canonicalWithout?
  split
  · rename_i h
    refine ⟨by simp, ?_⟩
    rintro ⟨rfl, h1, h2⟩
    rcases h with h | h
    · exact absurd h h1
    · exact absurd h h2
  · rename_i h
    rw [not_or] at h
    constructor
    · rintro h'
      obtain rfl := Option.some.inj h'
      exact ⟨rfl, h.1, h.2⟩
    · rintro ⟨rfl, _⟩
      rfl

theorem canonicalWithout?_idem {sep : Char} {s t : List Char}
    (h : canonicalWithout? sep s = some t) : canonicalWithout? sep t = some t := by
  obtain ⟨rfl, hn, hs⟩ := canonicalWithout?_eq_some_iff.1 h
  exact canonicalWithout?_eq_some_iff.2 ⟨(canonical_canonical s).symm, hn, hs⟩

end AccessGovernance.Text
