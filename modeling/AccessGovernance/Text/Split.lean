/-! # Splitting at a separator

Cutting a text at the first or the last occurrence of a character, and cutting it into the fields
between all occurrences. Each cut is pinned down by two laws: the parts put together again are the
text, and the part that must not contain the separator does not.
-/

namespace AccessGovernance.Text

def cutFirst? (sep : Char) : List Char → Option (List Char × List Char)
  | [] => none
  | c :: rest =>
      if c = sep then some ([], rest)
      else (cutFirst? sep rest).map fun p => (c :: p.1, p.2)

def cutLast? (sep : Char) : List Char → Option (List Char × List Char)
  | [] => none
  | c :: rest =>
      match cutLast? sep rest with
      | some p => some (c :: p.1, p.2)
      | none => if c = sep then some ([], rest) else none

/-- The parts between the occurrences of `sep`, one more than there are occurrences. -/
def fields (sep : Char) : List Char → List (List Char)
  | [] => [[]]
  | c :: rest =>
      if c = sep then [] :: fields sep rest
      else
        match fields sep rest with
        | [] => [[c]]
        | f :: fs => (c :: f) :: fs

variable {sep : Char}

theorem cutFirst?_append {a b : List Char} (h : sep ∉ a) :
    cutFirst? sep (a ++ sep :: b) = some (a, b) := by
  induction a with
  | nil => simp [cutFirst?]
  | cons c a ih =>
    simp only [List.mem_cons, not_or] at h
    simp [cutFirst?, Ne.symm h.1, ih h.2]

theorem cutFirst?_eq_some_iff {s a b : List Char} :
    cutFirst? sep s = some (a, b) ↔ s = a ++ sep :: b ∧ sep ∉ a := by
  refine ⟨fun h => ?_, fun ⟨h, hm⟩ => h ▸ cutFirst?_append hm⟩
  induction s generalizing a with
  | nil => simp [cutFirst?] at h
  | cons c s ih =>
    by_cases hc : c = sep
    · simp only [cutFirst?, hc, if_true, Option.some.injEq, Prod.mk.injEq] at h
      obtain ⟨rfl, rfl⟩ := h
      simp [hc]
    · simp only [cutFirst?, hc, if_false, Option.map_eq_some_iff] at h
      obtain ⟨⟨a', b'⟩, h, he⟩ := h
      simp only [Prod.mk.injEq] at he
      obtain ⟨rfl, rfl⟩ := he
      obtain ⟨rfl, hm⟩ := ih h
      simp [hm, Ne.symm hc]

theorem cutFirst?_eq_none_iff {s : List Char} : cutFirst? sep s = none ↔ sep ∉ s := by
  induction s with
  | nil => simp [cutFirst?]
  | cons c s ih =>
    by_cases hc : c = sep
    · simp [cutFirst?, hc]
    · simp [cutFirst?, hc, Ne.symm hc, ih]

theorem cutLast?_eq_none_iff {s : List Char} : cutLast? sep s = none ↔ sep ∉ s := by
  induction s with
  | nil => simp [cutLast?]
  | cons c s ih =>
    cases h : cutLast? sep s with
    | some p =>
      have : ¬ sep ∉ s := fun hs => by simp [ih.2 hs] at h
      simp [cutLast?, h, Classical.not_not.1 this]
    | none =>
      have hs := ih.1 h
      by_cases hc : c = sep
      · simp [cutLast?, h, hc]
      · simp [cutLast?, h, hc, hs, Ne.symm hc]

theorem cutLast?_append {a b : List Char} (h : sep ∉ b) :
    cutLast? sep (a ++ sep :: b) = some (a, b) := by
  induction a with
  | nil => simp [cutLast?, cutLast?_eq_none_iff.2 h]
  | cons c a ih => simp [cutLast?, ih]

theorem cutLast?_eq_some_iff {s a b : List Char} :
    cutLast? sep s = some (a, b) ↔ s = a ++ sep :: b ∧ sep ∉ b := by
  refine ⟨fun h => ?_, fun ⟨h, hm⟩ => h ▸ cutLast?_append hm⟩
  induction s generalizing a with
  | nil => simp [cutLast?] at h
  | cons c s ih =>
    cases hp : cutLast? sep s with
    | some p =>
      simp only [cutLast?, hp, Option.some.injEq, Prod.mk.injEq] at h
      obtain ⟨rfl, rfl⟩ := h
      obtain ⟨hs, hm⟩ := ih (a := p.1) hp
      exact ⟨by rw [List.cons_append, ← hs], hm⟩
    | none =>
      by_cases hc : c = sep
      · simp only [cutLast?, hp, hc, if_true, Option.some.injEq, Prod.mk.injEq] at h
        obtain ⟨rfl, rfl⟩ := h
        exact ⟨by simp [hc], cutLast?_eq_none_iff.1 hp⟩
      · simp [cutLast?, hp, hc] at h

theorem fields_of_not_mem {s : List Char} (h : sep ∉ s) : fields sep s = [s] := by
  induction s with
  | nil => rfl
  | cons c s ih =>
    simp only [List.mem_cons, not_or] at h
    simp [fields, Ne.symm h.1, ih h.2]

theorem fields_ne_nil (s : List Char) : fields sep s ≠ [] := by
  cases s with
  | nil => simp [fields]
  | cons c s =>
    simp only [fields]
    split
    · simp
    · split <;> simp

theorem fields_append_cons (a b : List Char) :
    fields sep (a ++ sep :: b) = fields sep a ++ fields sep b := by
  induction a with
  | nil => simp [fields]
  | cons c a ih =>
    by_cases hc : c = sep
    · simp [fields, hc, ih]
    · cases hf : fields sep a with
      | nil => exact absurd hf (fields_ne_nil a)
      | cons f fs => simp [fields, hc, ih, hf]

theorem fields_append {a b : List Char} (h : sep ∉ a) :
    fields sep (a ++ sep :: b) = a :: fields sep b := by
  rw [fields_append_cons, fields_of_not_mem h, List.singleton_append]

theorem exists_of_fields_eq_cons {s f : List Char} {fs : List (List Char)}
    (h : fields sep s = f :: fs) (hfs : fs ≠ []) : ∃ t, s = f ++ sep :: t ∧ fields sep t = fs := by
  cases hcut : cutFirst? sep s with
  | none =>
    rw [fields_of_not_mem (cutFirst?_eq_none_iff.1 hcut), List.cons.injEq] at h
    exact absurd h.2.symm hfs
  | some p =>
    obtain ⟨rfl, hm⟩ := cutFirst?_eq_some_iff.1 hcut
    rw [fields_append hm, List.cons.injEq] at h
    exact ⟨p.2, by rw [h.1], h.2⟩

theorem mem_of_mem_fields {s f : List Char} {c : Char} (h : f ∈ fields sep s) (hc : c ∈ f) :
    c ∈ s := by
  induction s generalizing f with
  | nil =>
    simp only [fields, List.mem_singleton] at h
    simp [h] at hc
  | cons d s ih =>
    by_cases hd : d = sep
    · simp only [fields, hd, if_true, List.mem_cons] at h
      rcases h with rfl | h
      · simp at hc
      · exact List.mem_cons_of_mem d (ih h hc)
    · simp only [fields, hd, if_false] at h
      cases hf : fields sep s with
      | nil => exact absurd hf (fields_ne_nil s)
      | cons g gs =>
        rw [hf] at h ih
        rcases List.mem_cons.1 h with rfl | h
        · rcases List.mem_cons.1 hc with rfl | hc
          · exact List.mem_cons_self
          · exact List.mem_cons_of_mem d (ih List.mem_cons_self hc)
        · exact List.mem_cons_of_mem d (ih (List.mem_cons_of_mem g h) hc)

theorem intercalate_fields (s : List Char) : [sep].intercalate (fields sep s) = s := by
  induction s with
  | nil => rfl
  | cons c s ih =>
    cases hf : fields sep s with
    | nil => exact absurd hf (fields_ne_nil s)
    | cons g gs =>
      rw [hf] at ih
      by_cases hc : c = sep
      · simp only [fields, hc, if_true, hf]
        rw [← ih]
        cases gs <;> simp [List.intercalate, List.intersperse]
      · simp only [fields, hc, if_false, hf]
        rw [← ih]
        cases gs <;> simp [List.intercalate, List.intersperse]

end AccessGovernance.Text
