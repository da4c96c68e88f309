import AccessGovernance.Identity.Principal

/-! # Reading just-in-time groups

Three fields name a just-in-time group if their canonical forms are its labels. Fields that are
canonical already are the labels themselves, so the text of a group is the only canonical text that
names it.
-/

namespace AccessGovernance

theorem Label.ofChars?_eq_some_iff {s : List Char} {l : Label} :
    ofChars? s = some l ↔ Text.canonical s = l.text.toList := by
  constructor
  · intro h
    unfold ofChars? at h
    split at h
    · cases h
    · rename_i t hcanonical
      obtain rfl := Option.some.inj h
      rw [String.toList_ofList, (Text.canonicalWithout?_eq_some_iff.mp hcanonical).1]
  · intro h
    have hlabel : Text.canonicalWithout? '.' s = some l.text.toList :=
      Text.canonicalWithout?_eq_some_iff.mpr ⟨h.symm, l.toList_ne_nil, l.dot_not_mem⟩
    unfold ofChars?
    split
    · rename_i hcanonical
      rw [hlabel] at hcanonical
      cases hcanonical
    · rename_i t hcanonical
      rw [hlabel] at hcanonical
      obtain rfl := Option.some.inj hcanonical
      simp

theorem Label.trim_toList (l : Label) : Text.trim l.text.toList = l.text.toList := by
  rw [← l.canonical_toList, Text.trim_canonical]

theorem Label.isLower (l : Label) : ∀ c ∈ l.text.toList, Text.IsLower c := by
  apply Text.lower_eq_self_iff.mp
  rw [← l.canonical_toList, Text.lower_canonical]

namespace JitGroup

theorem ofChars?_eq_some_iff {environment system name : List Char} {j : JitGroup} :
    ofChars? environment system name = some j ↔
      Text.canonical environment = j.environment.text.toList ∧
        Text.canonical system = j.system.text.toList ∧
          Text.canonical name = j.name.text.toList := by
  simp only [← Label.ofChars?_eq_some_iff]
  constructor
  · intro h
    obtain ⟨e, he, h⟩ := Option.bind_eq_some_iff.mp h
    obtain ⟨s, hs, h⟩ := Option.bind_eq_some_iff.mp h
    obtain ⟨n, hn, h⟩ := Option.bind_eq_some_iff.mp h
    obtain rfl := Option.some.inj h
    exact ⟨he, hs, hn⟩
  · rintro ⟨he, hs, hn⟩
    simp [ofChars?, he, hs, hn]

theorem ofFields?_eq_some_iff {fs : List (List Char)} {j : JitGroup} :
    ofFields? fs = some j ↔ fs.map Text.canonical = Text.fields '.' j.text.toList := by
  rw [fields_text]
  constructor
  · intro h
    unfold ofFields? at h
    split at h
    · obtain ⟨he, hs, hn⟩ := ofChars?_eq_some_iff.mp h
      simp [he, hs, hn]
    · cases h
  · intro h
    obtain ⟨e, fs, rfl, he, h⟩ := List.map_eq_cons_iff.mp h
    obtain ⟨s, fs, rfl, hs, h⟩ := List.map_eq_cons_iff.mp h
    obtain ⟨n, fs, rfl, hn, h⟩ := List.map_eq_cons_iff.mp h
    obtain rfl := List.map_eq_nil_iff.mp h
    exact ofChars?_eq_some_iff.mpr ⟨he, hs, hn⟩

theorem eq_toList_text {s : List Char} {j : JitGroup}
    (h : ofFields? (Text.fields '.' s) = some j)
    (hcanonical : ∀ f ∈ Text.fields '.' s, Text.canonical f = f) : s = j.text.toList := by
  have hfields : Text.fields '.' s = Text.fields '.' j.text.toList := by
    rw [← ofFields?_eq_some_iff.mp h]
    exact ((List.map_congr_left hcanonical).trans (List.map_id' _)).symm
  calc
    s = ['.'].intercalate (Text.fields '.' s) := (Text.intercalate_fields s).symm
    _ = ['.'].intercalate (Text.fields '.' j.text.toList) := by rw [hfields]
    _ = j.text.toList := Text.intercalate_fields _

theorem trim_toList_text (j : JitGroup) : Text.trim j.text.toList = j.text.toList := by
  have hends := Text.trim_append_append j.environment.toList_ne_nil j.name.toList_ne_nil
    j.environment.trim_toList j.name.trim_toList ('.' :: (j.system.text.toList ++ ['.']))
  rw [toList_text]
  simpa using hends

theorem toList_text_ne_nil (j : JitGroup) : j.text.toList ≠ [] := by
  rw [toList_text]
  simp

theorem isLower_text (j : JitGroup) : ∀ c ∈ j.text.toList, Text.IsLower c := by
  have hdot : Text.IsLower '.' := ⟨by decide, by decide +kernel⟩
  intro c hc
  rw [toList_text] at hc
  simp only [List.mem_append, List.mem_cons] at hc
  rcases hc with hc | rfl | hc | rfl | hc
  · exact j.environment.isLower c hc
  · exact hdot
  · exact j.system.isLower c hc
  · exact hdot
  · exact j.name.isLower c hc

end JitGroup

end AccessGovernance
