import AccessGovernance.Identity.Principal

/-! # The parts of an address

Every address is made up of a local part and a domain in one way, and any two texts that meet the
conditions of `IsPart` and `IsDomain` make up an address.
-/

namespace AccessGovernance

namespace Email

structure IsPart (part : List Char) : Prop where
  ne_nil : part ≠ []
  trim_eq : Text.trim part = part
  isLower : ∀ c ∈ part, Text.IsLower c

structure IsDomain (domain : List Char) : Prop where
  ne_nil : domain ≠ []
  not_blank : ∀ c ∈ domain, Text.isBlank c = false
  at_not_mem : '@' ∉ domain
  isLower : ∀ c ∈ domain, Text.IsLower c

variable {part domain : List Char}

theorem parts_of_toList {e : Email} (h : e.text.toList = part ++ '@' :: domain)
    (hat : '@' ∉ domain) : e.parts = (part, domain) := by
  rw [parts, h, Text.cutLast?_append hat]
  rfl

theorem exists_ofText? {s : String} (hs : s.toList = part ++ '@' :: domain) (hp : IsPart part)
    (hd : IsDomain domain) : ∃ e, ofText? s = some e ∧ e.parts = (part, domain) := by
  have hlower : Text.lower (part ++ '@' :: domain) = part ++ '@' :: domain := by
    apply Text.lower_eq_self_iff.mpr
    intro c hc
    rcases List.mem_append.mp hc with hc | hc
    · exact hp.isLower c hc
    · rcases List.mem_cons.mp hc with rfl | hc
      · exact ⟨by decide, by decide +kernel⟩
      · exact hd.isLower c hc
  have hcanonical : canonical? s.toList = some s.toList := by
    rw [hs]
    exact canonical?_eq_self hp.ne_nil hd.ne_nil hp.trim_eq hd.not_blank hd.at_not_mem hlower
  exact ⟨⟨s, hcanonical⟩, ofText?_text ⟨s, hcanonical⟩, parts_of_toList hs hd.at_not_mem⟩

/-- No address has parts of any other kind. -/
theorem parts_spec (e : Email) :
    e.text.toList = e.parts.1 ++ '@' :: e.parts.2 ∧ IsPart e.parts.1 ∧ IsDomain e.parts.2 := by
  obtain ⟨part, domain, htext, hpart, hdomain, htrim, hblank, hat, hlower⟩ :=
    exists_parts_of_canonical? e.canonical
  have hchars := Text.lower_eq_self_iff.mp hlower
  rw [htext] at hchars
  rw [parts_of_toList htext hat]
  refine ⟨htext, ⟨hpart, htrim, ?_⟩, ⟨hdomain, hblank, hat, ?_⟩⟩
  · exact fun c hc => hchars c (List.mem_append_left _ hc)
  · exact fun c hc => hchars c (List.mem_append_right _ (List.mem_cons_of_mem _ hc))

theorem parts_inj {e e' : Email} : e.parts = e'.parts ↔ e = e' := by
  refine ⟨fun h => ?_, congrArg parts⟩
  have htext : e.text.toList = e'.text.toList := by
    rw [e.parts_spec.1, e'.parts_spec.1, h]
  exact text_inj.mp (String.toList_inj.mp htext)

theorem toList_ne_nil (e : Email) : e.text.toList ≠ [] := by
  rw [e.parts_spec.1]
  simp

theorem trim_toList (e : Email) : Text.trim e.text.toList = e.text.toList := by
  obtain ⟨htext, hpart, hdomain⟩ := e.parts_spec
  have hends := Text.trim_append_append hpart.ne_nil hdomain.ne_nil hpart.trim_eq
    (Text.trim_of_no_blank hdomain.not_blank) ['@']
  rw [htext]
  simpa using hends

end Email

end AccessGovernance
