import AccessGovernance.Proofs.Identity.GroupNaming
import AccessGovernance.Settings.Value

/-! # Domains among texts without a type

A text without a type may be read as a boolean or a number. Such a text has no blanks and no `@` and
is not empty. So a text that cannot be a domain is read as it stands.
-/

namespace AccessGovernance

/-- A character that may stand in a domain. -/
def isDomainChar (c : Char) : Bool :=
  c ≠ '@' && !Text.isBlank c

theorem isDomainChar_iff {c : Char} :
    isDomainChar c = true ↔ c ≠ '@' ∧ Text.isBlank c = false := by
  rw [isDomainChar, Bool.and_eq_true, decide_eq_true_iff, Bool.not_eq_true']

theorem isDomainChar_of_isDigit {c : Char} (h : c.isDigit = true) : isDomainChar c = true := by
  have hrange : 0x30 ≤ c.toNat ∧ c.toNat ≤ 0x39 := Char.isDigit_iff_toNat.mp h
  refine isDomainChar_iff.mpr ⟨?_, Text.isBlank_of_range (by omega) (by omega)⟩
  rintro rfl
  exact absurd h (by decide)

theorem isDomainChar_of_toLower {c : Char} (h : isDomainChar c.toLower = true) : isDomainChar c = true := by
  unfold Char.toLower at h
  split at h
  · rename_i hc
    have hlow : 0x41 ≤ c.toNat := UInt32.le_iff_toNat_le.mp hc.1
    have hhigh : c.toNat ≤ 0x5A := UInt32.le_iff_toNat_le.mp hc.2
    refine isDomainChar_iff.mpr ⟨?_, Text.isBlank_of_range (by omega) (by omega)⟩
    rintro rfl
    exact absurd hlow (by decide)
  · exact h

/-! ## Numbers -/

section Numbers

variable {s : List Char}

theorem isDomainChar_of_natOfDigits? {n : Nat} (h : natOfDigits? 10 s = some n) :
    ∀ c ∈ s, isDomainChar c = true := by
  rw [natOfDigits?] at h
  split at h
  · cases h
  · exact fun c hc => isDomainChar_of_isDigit (isDigit_of_foldlM_digit? h c hc)

theorem isDomainChar_of_intOfText? {n : Int} (h : intOfText? s = some n) :
    ∀ c ∈ s, isDomainChar c = true := by
  unfold intOfText? at h
  split at h
  · obtain ⟨m, hm, -⟩ := Option.map_eq_some_iff.mp h
    obtain ⟨k, hk, -⟩ := Option.bind_eq_some_iff.mp hm
    exact List.forall_mem_cons.mpr ⟨by decide, isDomainChar_of_natOfDigits? hk⟩
  · obtain ⟨m, hm, -⟩ := Option.map_eq_some_iff.mp h
    exact List.forall_mem_cons.mpr ⟨by decide, isDomainChar_of_natOfDigits? hm⟩
  · obtain ⟨m, hm, -⟩ := Option.map_eq_some_iff.mp h
    exact isDomainChar_of_natOfDigits? hm

theorem isDomainChar_of_dropWhile_isDigit (h : ∀ c ∈ s.dropWhile Char.isDigit, isDomainChar c = true) :
    ∀ c ∈ s, isDomainChar c = true := by
  intro c hc
  rw [← List.takeWhile_append_dropWhile (p := Char.isDigit) (l := s)] at hc
  rcases List.mem_append.mp hc with hc | hc
  · exact isDomainChar_of_isDigit (List.all_eq_true.mp List.all_takeWhile c hc)
  · exact h c hc

namespace Decimal

theorem isDomainChar_of_exponentOfText? {e : Int} (h : exponentOfText? s = some e) :
    ∀ c ∈ s, isDomainChar c = true := by
  unfold exponentOfText? at h
  split at h
  · exact List.forall_mem_nil _
  · split at h
    · rename_i hc
      refine List.forall_mem_cons.mpr ⟨?_, isDomainChar_of_intOfText? h⟩
      rcases hc with rfl | rfl <;> decide
    · cases h

theorem isDomainChar_of_ofUnsigned? {negative : Bool} {d : Decimal}
    (h : ofUnsigned? negative s = some d) : ∀ c ∈ s, isDomainChar c = true := by
  apply isDomainChar_of_dropWhile_isDigit
  unfold ofUnsigned? at h
  split at h
  · rename_i rest hrest
    obtain ⟨e, he, -⟩ := Option.bind_eq_some_iff.mp h
    rw [hrest]
    exact List.forall_mem_cons.mpr
      ⟨by decide, isDomainChar_of_dropWhile_isDigit (isDomainChar_of_exponentOfText? he)⟩
  · obtain ⟨e, he, -⟩ := Option.bind_eq_some_iff.mp h
    exact isDomainChar_of_exponentOfText? he

theorem isDomainChar_of_ofText? {d : Decimal} (h : ofText? s = some d) :
    ∀ c ∈ s, isDomainChar c = true := by
  unfold ofText? at h
  split at h
  · exact List.forall_mem_cons.mpr ⟨by decide, isDomainChar_of_ofUnsigned? h⟩
  · exact List.forall_mem_cons.mpr ⟨by decide, isDomainChar_of_ofUnsigned? h⟩
  · exact isDomainChar_of_ofUnsigned? h

end Decimal

theorem isDomainChar_of_map_toLower {word : List Char} (hword : word.all isDomainChar = true)
    (h : s.map Char.toLower = word) : ∀ c ∈ s, isDomainChar c = true := by
  intro c hc
  apply isDomainChar_of_toLower
  apply List.all_eq_true.mp hword
  rw [← h]
  exact List.mem_map_of_mem hc

namespace ExtendedBinary64

theorem isDomainChar_of_ofWord? {negative : Bool} {x : ExtendedBinary64}
    (h : ofWord? negative s = some x) : ∀ c ∈ s, isDomainChar c = true := by
  have hmap : ∀ {word : String}, String.ofList (s.map Char.toLower) = word →
      s.map Char.toLower = word.toList := by
    rintro _ rfl
    exact String.toList_ofList.symm
  simp only [ofWord?] at h
  split at h
  · rename_i hword
    rcases hword with hword | hword
    · exact isDomainChar_of_map_toLower (by decide) (hmap hword)
    · exact isDomainChar_of_map_toLower (by decide) (hmap hword)
  · split at h
    · rename_i hword
      exact isDomainChar_of_map_toLower (by decide) (hmap hword)
    · cases h

theorem isDomainChar_of_ofText? {x : ExtendedBinary64} (h : ofText? s = some x) :
    ∀ c ∈ s, isDomainChar c = true := by
  unfold ofText? at h
  rcases Option.or_eq_some_iff.mp h with h | ⟨-, h⟩
  · split at h
    · exact List.forall_mem_cons.mpr ⟨by decide, isDomainChar_of_ofWord? h⟩
    · exact List.forall_mem_cons.mpr ⟨by decide, isDomainChar_of_ofWord? h⟩
    · exact isDomainChar_of_ofWord? h
  · obtain ⟨d, hd, -⟩ := Option.map_eq_some_iff.mp h
    exact Decimal.isDomainChar_of_ofText? hd

end ExtendedBinary64

end Numbers

/-! ## Texts -/

theorem forall_isDomainChar_iff {s : List Char} :
    (∀ c ∈ s, isDomainChar c = true) ↔ '@' ∉ s ∧ ∀ c ∈ s, Text.isBlank c = false := by
  constructor
  · intro h
    refine ⟨fun hat => ?_, fun c hc => (isDomainChar_iff.mp (h c hc)).2⟩
    exact (isDomainChar_iff.mp (h '@' hat)).1 rfl
  · rintro ⟨hat, hblank⟩ c hc
    exact isDomainChar_iff.mpr ⟨ne_of_mem_of_not_mem hc hat, hblank c hc⟩

theorem isUsable_of_isDomainChar {domain : String} (hne : domain.toList ≠ [])
    (h : ∀ c ∈ domain.toList, isDomainChar c = true) : GroupNaming.IsUsable domain := by
  obtain ⟨hat, hblank⟩ := forall_isDomainChar_iff.mp h
  have htrim : Text.trim domain.toList = domain.toList := Text.trim_of_no_blank hblank
  constructor
  case ne_nil => rwa [htrim]
  case not_blank => rwa [htrim]
  case at_not_mem => rwa [htrim]

theorem isDomainChar_of_lower {s : List Char} (h : ∀ c ∈ Text.lower s, isDomainChar c = true) :
    ∀ c ∈ s, isDomainChar c = true := by
  obtain ⟨hat, hblank⟩ := forall_isDomainChar_iff.mp h
  rw [Text.mem_lower_iff (by decide)] at hat
  exact forall_isDomainChar_iff.mpr ⟨hat, Text.not_blank_lower_iff.mp hblank⟩

theorem SettingValue.ofUntyped_of_not_isUsable {domain : String}
    (h : ¬ GroupNaming.IsUsable domain) : ofUntyped domain = .string domain := by
  by_cases hnil : domain = ""
  · subst hnil
    rfl
  have hne : domain.toList ≠ [] := fun hl => hnil (String.toList_eq_nil_iff.mp hl)
  have hchars : ¬ ∀ c ∈ domain.toList, isDomainChar c = true := fun hs =>
    h (isUsable_of_isDomainChar hne hs)
  have hword : ∀ {word : String}, word.toList.all isDomainChar = true →
      String.ofList (Text.lower domain.toList) ≠ word := by
    rintro _ hword rfl
    rw [String.toList_ofList, List.all_eq_true] at hword
    exact hchars (isDomainChar_of_lower hword)
  have hinteger : intOfText? domain.toList = none :=
    Option.eq_none_iff_forall_ne_some.mpr fun n hn => hchars (isDomainChar_of_intOfText? hn)
  have hdouble : ExtendedBinary64.ofText? domain.toList = none :=
    Option.eq_none_iff_forall_ne_some.mpr fun x hx =>
      hchars (ExtendedBinary64.isDomainChar_of_ofText? hx)
  simp only [ofUntyped, hinteger, hdouble]
  rw [if_neg (hword (by decide)), if_neg (hword (by decide))]
  rfl

end AccessGovernance
