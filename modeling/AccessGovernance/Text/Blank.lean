import AccessGovernance.Text.Ranges

/-! # Blank characters and trimming

A character is blank if it has the Unicode property White_Space. Trimming removes the blank
characters at both ends and leaves those inside.
-/

namespace AccessGovernance.Text

/-- The White_Space property. -/
def blankRanges : Ranges :=
  [(0x0009, 0x000D), (0x0020, 0x0020), (0x0085, 0x0085), (0x00A0, 0x00A0), (0x1680, 0x1680),
   (0x2000, 0x200A), (0x2028, 0x2029), (0x202F, 0x202F), (0x205F, 0x205F), (0x3000, 0x3000)]

def isBlank (c : Char) : Bool :=
  blankRanges.contains c.toNat

theorem isBlank_of_range {c : Char} (hlow : 0x21 ≤ c.toNat) (hhigh : c.toNat ≤ 0x7E) :
    isBlank c = false := by
  grind [isBlank, blankRanges, Ranges.contains]

def trimStart (s : List Char) : List Char :=
  s.dropWhile isBlank

def trimEnd (s : List Char) : List Char :=
  (trimStart s.reverse).reverse

def trim (s : List Char) : List Char :=
  trimEnd (trimStart s)

theorem trimStart_of_head {s : List Char} (h : ∀ c ∈ s.head?, isBlank c = false) :
    trimStart s = s := by
  cases s with
  | nil => rfl
  | cons c s => simp [trimStart, h c (by simp)]

theorem head_trimStart (s : List Char) : ∀ c ∈ (trimStart s).head?, isBlank c = false := by
  induction s with
  | nil => simp [trimStart]
  | cons c s ih =>
    by_cases hc : isBlank c = true
    · simpa [trimStart, List.dropWhile_cons, hc] using ih
    · simp [trimStart, hc]

theorem trimEnd_of_getLast {s : List Char} (h : ∀ c ∈ s.getLast?, isBlank c = false) :
    trimEnd s = s := by
  have : trimStart s.reverse = s.reverse :=
    trimStart_of_head (by simpa [List.head?_reverse] using h)
  simp [trimEnd, this]

theorem getLast_trimEnd (s : List Char) : ∀ c ∈ (trimEnd s).getLast?, isBlank c = false := by
  simpa [trimEnd, List.getLast?_reverse] using head_trimStart s.reverse

theorem trimStart_isSuffix (s : List Char) : trimStart s <:+ s :=
  List.dropWhile_suffix _

theorem exists_eq_trimEnd_append (s : List Char) : ∃ t, s = trimEnd s ++ t := by
  obtain ⟨t, ht⟩ := trimStart_isSuffix s.reverse
  exact ⟨t.reverse, by
    have := congrArg List.reverse ht
    simpa [trimEnd] using this.symm⟩

theorem head_trim (s : List Char) : ∀ c ∈ (trim s).head?, isBlank c = false := by
  obtain ⟨t, ht⟩ := exists_eq_trimEnd_append (trimStart s)
  have hs := head_trimStart s
  rw [ht] at hs
  intro c hc
  refine hs c ?_
  change c ∈ (trimEnd (trimStart s)).head? at hc
  cases hq : trimEnd (trimStart s) with
  | nil => simp [hq] at hc
  | cons d r => simpa [hq] using hc

theorem getLast_trim (s : List Char) : ∀ c ∈ (trim s).getLast?, isBlank c = false :=
  getLast_trimEnd _

theorem trim_eq_self_iff {s : List Char} :
    trim s = s ↔ (∀ c ∈ s.head?, isBlank c = false) ∧ ∀ c ∈ s.getLast?, isBlank c = false := by
  constructor
  · intro h
    exact ⟨h ▸ head_trim s, h ▸ getLast_trim s⟩
  · rintro ⟨hh, hl⟩
    rw [trim, trimStart_of_head hh, trimEnd_of_getLast hl]

@[simp] theorem trim_trim (s : List Char) : trim (trim s) = trim s :=
  trim_eq_self_iff.2 ⟨head_trim s, getLast_trim s⟩

theorem trim_of_no_blank {s : List Char} (h : ∀ c ∈ s, isBlank c = false) : trim s = s :=
  trim_eq_self_iff.2
    ⟨fun c hc => h c (List.mem_of_head? hc), fun c hc => h c (List.mem_of_getLast? hc)⟩

/-- Only the ends of a text decide whether it is trimmed. -/
theorem trim_append_append {a b : List Char} (ha : a ≠ []) (hb : b ≠ []) (hta : trim a = a)
    (htb : trim b = b) (m : List Char) : trim (a ++ m ++ b) = a ++ m ++ b := by
  refine trim_eq_self_iff.2 ⟨?_, ?_⟩
  · obtain ⟨c, a, rfl⟩ := List.exists_cons_of_ne_nil ha
    exact (trim_eq_self_iff.1 hta).1
  · rw [List.getLast?_append, List.getLast?_eq_some_getLast hb, Option.some_or,
      ← List.getLast?_eq_some_getLast hb]
    exact (trim_eq_self_iff.1 htb).2

theorem mem_of_mem_trim {c : Char} {s : List Char} (h : c ∈ trim s) : c ∈ s := by
  obtain ⟨t, ht⟩ := exists_eq_trimEnd_append (trimStart s)
  have : c ∈ trimStart s := by
    rw [ht]
    exact List.mem_append_left _ h
  exact (trimStart_isSuffix s).subset this

/-! ## Texts with a character that is not blank -/

theorem trimStart_append_cons {c : Char} (hc : isBlank c = false) (a b : List Char) :
    trimStart (a ++ c :: b) = trimStart a ++ c :: b := by
  rw [trimStart, trimStart, List.dropWhile_append]
  split
  · rename_i hnil
    rw [List.isEmpty_iff.1 hnil, List.dropWhile_cons, hc]
    rfl
  · rfl

theorem trimEnd_append_cons {c : Char} (hc : isBlank c = false) (a b : List Char) :
    trimEnd (a ++ c :: b) = a ++ c :: trimEnd b := by
  have hreverse : (a ++ c :: b).reverse = b.reverse ++ c :: a.reverse := by simp
  rw [trimEnd, hreverse, trimStart_append_cons hc]
  simp [trimEnd]

theorem trim_append_cons {c : Char} (hc : isBlank c = false) (a b : List Char) :
    trim (a ++ c :: b) = trimStart a ++ c :: trimEnd b := by
  rw [trim, trimStart_append_cons hc, trimEnd_append_cons hc]

@[simp] theorem trim_trimStart (s : List Char) : trim (trimStart s) = trim s := by
  rw [trim, trimStart_of_head (head_trimStart s), trim]

theorem trimStart_of_blank {s : List Char} (h : ∀ c ∈ s, isBlank c = true) : trimStart s = [] := by
  have hdrop : (s ++ []).dropWhile isBlank = [] := List.dropWhile_append_of_pos h
  rwa [List.append_nil] at hdrop

@[simp] theorem trim_trimEnd (s : List Char) : trim (trimEnd s) = trim s := by
  by_cases h : ∀ c ∈ s, isBlank c = true
  · have hend : trimEnd s = [] := by
      rw [trimEnd, trimStart_of_blank (by simpa using h)]
      rfl
    rw [hend, trim, trim, trimStart_of_blank h]
    rfl
  · simp only [Classical.not_forall, Bool.not_eq_true] at h
    obtain ⟨c, hmem, hc⟩ := h
    obtain ⟨a, b, rfl⟩ := List.append_of_mem hmem
    rw [trimEnd_append_cons hc, trim_append_cons hc, trim_append_cons hc,
      trimEnd_of_getLast (getLast_trimEnd b)]

theorem trim_blanks_append_append {l r : List Char} (hl : ∀ c ∈ l, isBlank c = true)
    (hr : ∀ c ∈ r, isBlank c = true) (m : List Char) : trim (l ++ (m ++ r)) = trim m := by
  have hstart : trimStart (l ++ (m ++ r)) = trimStart (m ++ r) := List.dropWhile_append_of_pos hl
  have hend : trimEnd (m ++ r) = trimEnd m := by
    have hr' : ∀ c ∈ r.reverse, isBlank c = true := by simpa using hr
    rw [trimEnd, List.reverse_append, trimStart, List.dropWhile_append_of_pos hr']
    rfl
  rw [← trim_trimStart, hstart, trim_trimStart, ← trim_trimEnd, hend, trim_trimEnd]

theorem exists_eq_blanks_append (s : List Char) :
    ∃ l r, s = l ++ (trim s ++ r) ∧ (∀ c ∈ l, isBlank c = true) ∧ ∀ c ∈ r, isBlank c = true := by
  have hblank : ∀ s : List Char, ∀ c ∈ s.takeWhile isBlank, isBlank c = true :=
    fun s => List.all_eq_true.1 List.all_takeWhile
  refine ⟨s.takeWhile isBlank, ((trimStart s).reverse.takeWhile isBlank).reverse, ?_, hblank s, ?_⟩
  · have hend : trim s ++ ((trimStart s).reverse.takeWhile isBlank).reverse = trimStart s := by
      rw [trim, trimEnd, trimStart, ← List.reverse_append, List.takeWhile_append_dropWhile,
        List.reverse_reverse]
    rw [hend]
    exact List.takeWhile_append_dropWhile.symm
  · intro c hc
    exact hblank _ c (List.mem_reverse.1 hc)

end AccessGovernance.Text
