import AccessGovernance.Text.LowerCase.Lemmas
import AccessGovernance.Text.Split

/-! # E-mail addresses

An address has a local part and a domain, divided by its last `@`. Its canonical form has no blanks
around either part, none inside the domain, and is in lower case. Canonical forms are canonical
forms of themselves, so an `Email` holds its own canonical text and two addresses are equal iff
their texts are.
-/

namespace AccessGovernance

def Email.canonical? (s : List Char) : Option (List Char) :=
  match Text.cutLast? '@' (Text.trim s) with
  | none => none
  | some (part, domain) =>
      if Text.trim part = [] ∨ Text.trim domain = [] ∨ (Text.trim domain).any Text.isBlank then none
      else some (Text.lower (Text.trim part ++ '@' :: Text.trim domain))

structure Email where
  text : String
  canonical : Email.canonical? text.toList = some text.toList
deriving DecidableEq

namespace Email

theorem canonical?_eq_self {part domain : List Char} (hp : part ≠ []) (hd : domain ≠ [])
    (htp : Text.trim part = part) (hb : ∀ c ∈ domain, Text.isBlank c = false)
    (hat : '@' ∉ domain) (hl : Text.lower (part ++ '@' :: domain) = part ++ '@' :: domain) :
    canonical? (part ++ '@' :: domain) = some (part ++ '@' :: domain) := by
  have htd : Text.trim domain = domain := Text.trim_of_no_blank hb
  have ht : Text.trim (part ++ '@' :: domain) = part ++ '@' :: domain := by
    obtain ⟨c, p, rfl⟩ := List.exists_cons_of_ne_nil hp
    refine Text.trim_eq_self_iff.2 ⟨?_, ?_⟩
    · simpa using (Text.trim_eq_self_iff.1 htp).1
    · obtain ⟨d, e, rfl⟩ := List.exists_cons_of_ne_nil hd
      rw [List.getLast?_append, List.getLast?_cons_cons]
      cases hl : (d :: e).getLast? with
      | none => simp at hl
      | some x => simpa using (Text.trim_eq_self_iff.1 htd).2 x hl
  have hany : domain.any Text.isBlank = false := by simpa using hb
  simp [canonical?, ht, Text.cutLast?_append hat, htp, htd, hp, hd, hl, hany]

theorem exists_parts_of_canonical? {s t : List Char} (h : canonical? s = some t) :
    ∃ part domain, t = part ++ '@' :: domain ∧ part ≠ [] ∧ domain ≠ [] ∧
      Text.trim part = part ∧ (∀ c ∈ domain, Text.isBlank c = false) ∧ '@' ∉ domain ∧
      Text.lower t = t := by
  unfold canonical? at h
  split at h
  · simp at h
  · rename_i part domain hc
    split at h
    · simp at h
    · rename_i hn
      simp only [not_or, Bool.not_eq_true] at hn
      obtain ⟨hp, hd, hb⟩ := hn
      obtain rfl := Option.some.inj h
      have hat := (Text.cutLast?_eq_some_iff.1 hc).2
      obtain ⟨u, v, he, hu, hv⟩ :=
        (Text.lowering_lower (Text.trim part ++ '@' :: Text.trim domain)).of_append_cons
          (by decide +kernel)
      refine ⟨u, v, he, ?_, ?_, ?_, ?_, ?_, ?_⟩
      · rwa [Ne, hu.eq_nil_iff]
      · rwa [Ne, hv.eq_nil_iff]
      · exact hu.trim_eq (Text.trim_trim part)
      · intro c hc
        rw [← Bool.not_eq_true]
        intro hbc
        have := (hv.mem_iff (Text.isInert_of_isBlank hbc)).1 hc
        rw [List.any_eq_false] at hb
        exact hb c this hbc
      · rw [hv.mem_iff (by decide)]
        exact fun hm => hat (Text.mem_of_mem_trim hm)
      · exact Text.lower_lower _

theorem canonical?_idem {s t : List Char} (h : canonical? s = some t) :
    canonical? t = some t := by
  obtain ⟨part, domain, rfl, hp, hd, htp, hb, hat, hl⟩ := exists_parts_of_canonical? h
  exact canonical?_eq_self hp hd htp hb hat hl

def ofText? (s : String) : Option Email :=
  match h : canonical? s.toList with
  | none => none
  | some t => some ⟨String.ofList t, by simpa using canonical?_idem h⟩

def parts (e : Email) : List Char × List Char :=
  (Text.cutLast? '@' e.text.toList).getD (e.text.toList, [])

theorem ofText?_text (e : Email) : ofText? e.text = some e := by
  unfold ofText?
  split
  · rename_i h
    simp [e.canonical] at h
  · rename_i t h
    rw [e.canonical] at h
    obtain rfl := Option.some.inj h
    simp

end Email

end AccessGovernance
