import AccessGovernance.Identity.GroupNaming
import AccessGovernance.Proofs.Identity.Email
import AccessGovernance.Proofs.Identity.JitGroup
import Mathlib.Logic.ExistsUnique

/-! # What the naming convention recognizes

A convention recognizes directory groups iff its domain can be the domain of an address. Then every
just-in-time group has a directory group that is recognized as it. Other directory groups may be
recognized as it as well, but these have blanks around a label, and it is not kept as any of them.
-/

namespace AccessGovernance

/-- No label of the local part has blanks at its ends. -/
def DirectoryGroup.HasTrimmedLabels (g : DirectoryGroup) : Prop :=
  ∀ label ∈ Text.fields '.' g.email.parts.1, Text.trim label = label

instance (g : DirectoryGroup) : Decidable g.HasTrimmedLabels :=
  inferInstanceAs (Decidable (∀ label ∈ Text.fields '.' g.email.parts.1, Text.trim label = label))

theorem DirectoryGroup.parts_inj {g h : DirectoryGroup} : g.email.parts = h.email.parts ↔ g = h := by
  rw [Email.parts_inj]
  cases g
  cases h
  simp

namespace GroupNaming

variable {naming : GroupNaming} {g : DirectoryGroup} {j : JitGroup}

/-- The local part of the address that a just-in-time group has. -/
def localPart (j : JitGroup) : List Char :=
  "jit".toList ++ '.' :: j.text.toList

theorem isPart_localPart (j : JitGroup) : Email.IsPart (localPart j) where
  ne_nil := by simp [localPart]
  trim_eq := by
    have hends := Text.trim_append_append (by decide) j.toList_text_ne_nil
      (by decide : Text.trim "jit".toList = "jit".toList) j.trim_toList_text ['.']
    simpa [localPart] using hends
  isLower := by
    intro c hc
    rcases List.mem_append.mp hc with hc | hc
    · have hstart : Text.lower "jit".toList = "jit".toList := by decide +kernel
      exact Text.lower_eq_self_iff.mp hstart c hc
    · rcases List.mem_cons.mp hc with rfl | hc
      · exact ⟨by decide, by decide +kernel⟩
      · exact j.isLower_text c hc

theorem jitGroup?_eq_some_iff :
    naming.jitGroup? g = some j ↔ g.email.parts.2 = naming.domain.toList ∧
      ∃ labels, g.email.parts.1 = "jit".toList ++ '.' :: labels ∧
        JitGroup.ofFields? (Text.fields '.' labels) = some j := by
  constructor
  · intro h
    unfold jitGroup? at h
    split at h
    · rename_i hdomain
      split at h
      · rename_i start labels hfields
        split at h
        · rename_i hstart
          subst hstart
          have hlabels : labels ≠ [] := by
            rintro rfl
            cases h
          obtain ⟨rest, hpart, rfl⟩ := Text.exists_of_fields_eq_cons hfields hlabels
          exact ⟨hdomain, rest, hpart, h⟩
        · cases h
      · cases h
    · cases h
  · rintro ⟨hdomain, labels, hpart, h⟩
    have hfields : Text.fields '.' g.email.parts.1 = "jit".toList :: Text.fields '.' labels := by
      rw [hpart, Text.fields_append (by decide)]
    rw [jitGroup?, if_pos hdomain, hfields]
    exact h

theorem jitGroup?_of_parts (h : g.email.parts = (localPart j, naming.domain.toList)) :
    naming.jitGroup? g = some j := by
  apply jitGroup?_eq_some_iff.mpr
  rw [h]
  exact ⟨rfl, j.text.toList, rfl, j.ofFields?_fields_text⟩

theorem isDomain_of_jitGroup? (h : naming.jitGroup? g = some j) :
    Email.IsDomain naming.domain.toList := by
  rw [← (jitGroup?_eq_some_iff.mp h).1]
  exact g.email.parts_spec.2.2

theorem exists_directoryGroup? (h : Email.IsDomain naming.domain.toList) (j : JitGroup) :
    ∃ g, naming.directoryGroup? j = some g ∧
      g.email.parts = (localPart j, naming.domain.toList) := by
  have htext : ("jit." ++ j.text ++ "@" ++ naming.domain).toList =
      localPart j ++ '@' :: naming.domain.toList := by
    simp [localPart]
  obtain ⟨e, he, hparts⟩ := Email.exists_ofText? htext (isPart_localPart j) h
  refine ⟨⟨e⟩, ?_, hparts⟩
  rw [directoryGroup?, DirectoryGroup.ofText?, he]
  rfl

/-! ## Groups that are recognized as one -/

theorem hasTrimmedLabels_of_parts (h : g.email.parts.1 = localPart j) : g.HasTrimmedLabels := by
  intro label hlabel
  rw [h, localPart, Text.fields_append (by decide), JitGroup.fields_text] at hlabel
  simp only [List.mem_cons, List.not_mem_nil, or_false] at hlabel
  rcases hlabel with rfl | rfl | rfl | rfl
  · decide
  · exact j.environment.trim_toList
  · exact j.system.trim_toList
  · exact j.name.trim_toList

theorem parts_of_hasTrimmedLabels (h : naming.jitGroup? g = some j) (hg : g.HasTrimmedLabels) :
    g.email.parts = (localPart j, naming.domain.toList) := by
  obtain ⟨hdomain, labels, hpart, hlabels⟩ := jitGroup?_eq_some_iff.mp h
  -- an address is in lower case as a whole, so trimmed labels are canonical
  rw [DirectoryGroup.HasTrimmedLabels, hpart, Text.fields_append (by decide)] at hg
  have hcanonical : ∀ f ∈ Text.fields '.' labels, Text.canonical f = f := by
    intro f hf
    have hlower : Text.lower f = f := by
      apply Text.lower_eq_self_iff.mpr
      intro c hc
      apply g.email.parts_spec.2.1.isLower
      rw [hpart]
      exact List.mem_append_right _ (List.mem_cons_of_mem _ (Text.mem_of_mem_fields hf hc))
    rw [Text.canonical, hg f (List.mem_cons_of_mem _ hf), hlower]
  rw [← hdomain, localPart, ← JitGroup.eq_toList_text hlabels hcanonical, ← hpart]

/-- Of the directory groups that are recognized as a just-in-time group, the one that it is kept as
is the only one with trimmed labels. -/
theorem directoryGroup?_eq_iff_hasTrimmedLabels (h : naming.jitGroup? g = some j) :
    (naming.directoryGroup? j = some g ↔ g.HasTrimmedLabels) ∧
      ∃! g', naming.jitGroup? g' = some j ∧ g'.HasTrimmedLabels := by
  obtain ⟨g', hg', hparts⟩ := exists_directoryGroup? (isDomain_of_jitGroup? h) j
  have hrecognized : naming.jitGroup? g' = some j := jitGroup?_of_parts hparts
  have htrimmed : g'.HasTrimmedLabels := hasTrimmedLabels_of_parts (congrArg Prod.fst hparts)
  have hunique : ∀ g'', naming.jitGroup? g'' = some j ∧ g''.HasTrimmedLabels → g'' = g' := by
    rintro g'' ⟨h'', ht''⟩
    apply DirectoryGroup.parts_inj.mp
    rw [parts_of_hasTrimmedLabels h'' ht'', hparts]
  refine ⟨⟨fun heq => ?_, fun ht => ?_⟩, g', ⟨hrecognized, htrimmed⟩, hunique⟩
  · rw [hg'] at heq
    exact Option.some.inj heq ▸ htrimmed
  · rw [hg', hunique g ⟨h, ht⟩]

theorem directoryGroup?_of_admins :
    ∃ g j, DirectoryGroup.ofText? "jit.prod.network.admins@example.com" = some g ∧
      (ofDomain "example.com").jitGroup? g = some j ∧
        ((ofDomain "example.com").directoryGroup? j = some g ↔ g.HasTrimmedLabels) ∧
          ∃! g', (ofDomain "example.com").jitGroup? g' = some j ∧ g'.HasTrimmedLabels :=
  let g : DirectoryGroup := ⟨⟨"jit.prod.network.admins@example.com", by decide +kernel⟩⟩
  let j : JitGroup := ⟨⟨"prod", by decide +kernel⟩, ⟨"network", by decide +kernel⟩,
    ⟨"admins", by decide +kernel⟩⟩
  ⟨g, j, by decide +kernel, by decide +kernel,
    directoryGroup?_eq_iff_hasTrimmedLabels (g := g) (j := j) (by decide +kernel)⟩

/-- Two directory groups may be recognized as one just-in-time group, which is not kept as the one
with a blank before a label. -/
theorem directoryGroup?_of_blank_before_label :
    ∃ g g' j, DirectoryGroup.ofText? "jit. prod.network.admins@example.com" = some g ∧
      (ofDomain "example.com").jitGroup? g = some j ∧
        (ofDomain "example.com").directoryGroup? j = some g' ∧ g' ≠ g ∧
          (ofDomain "example.com").jitGroup? g' = some j :=
  let g : DirectoryGroup := ⟨⟨"jit. prod.network.admins@example.com", by decide +kernel⟩⟩
  let g' : DirectoryGroup := ⟨⟨"jit.prod.network.admins@example.com", by decide +kernel⟩⟩
  let j : JitGroup := ⟨⟨"prod", by decide +kernel⟩, ⟨"network", by decide +kernel⟩,
    ⟨"admins", by decide +kernel⟩⟩
  ⟨g, g', j, by decide +kernel, by decide +kernel, by decide +kernel, by decide +kernel,
    by decide +kernel⟩

/-! ## Domains -/

/-- What is left of a text between its blank ends is not empty and has no blanks and no `@`. -/
structure IsUsable (domain : String) : Prop where
  ne_nil : Text.trim domain.toList ≠ []
  not_blank : ∀ c ∈ Text.trim domain.toList, Text.isBlank c = false
  at_not_mem : '@' ∉ Text.trim domain.toList

theorem domain_ofDomain (domain : String) :
    (ofDomain domain).domain.toList = Text.lower (Text.trim domain.toList) := by
  rw [ofDomain, String.toList_ofList, Text.canonical]

theorem isDomain_ofDomain_iff {domain : String} :
    Email.IsDomain (ofDomain domain).domain.toList ↔ IsUsable domain := by
  rw [domain_ofDomain]
  constructor
  · intro h
    refine ⟨fun hnil => h.ne_nil (Text.lower_eq_nil_iff.mpr hnil),
      Text.not_blank_lower_iff.mp h.not_blank, fun hat => h.at_not_mem ?_⟩
    exact (Text.mem_lower_iff (by decide)).mpr hat
  · intro h
    refine ⟨fun hnil => h.ne_nil (Text.lower_eq_nil_iff.mp hnil),
      Text.not_blank_lower_iff.mpr h.not_blank, fun hat => h.at_not_mem ?_,
      Text.lower_eq_self_iff.mp (Text.lower_lower _)⟩
    exact (Text.mem_lower_iff (by decide)).mp hat

instance : Nonempty JitGroup :=
  let label : Label := ⟨"prod", by decide +kernel⟩
  ⟨⟨label, label, label⟩⟩

theorem isUsable_of_jitGroup? {domain : String} (h : (ofDomain domain).jitGroup? g = some j) :
    IsUsable domain :=
  isDomain_ofDomain_iff.mp (isDomain_of_jitGroup? h)

theorem exists_directoryGroup?_ofDomain {domain : String} (h : IsUsable domain) (j : JitGroup) :
    ∃ g, (ofDomain domain).directoryGroup? j = some g ∧
      g.email.parts.2 = Text.lower (Text.trim domain.toList) ∧
        (ofDomain domain).jitGroup? g = some j := by
  obtain ⟨g, hg, hparts⟩ := exists_directoryGroup? (isDomain_ofDomain_iff.mpr h) j
  refine ⟨g, hg, ?_, jitGroup?_of_parts hparts⟩
  rw [hparts, domain_ofDomain]

/-- Under a usable domain every just-in-time group is kept as a directory group that is recognized
as it. Under any other domain no group is recognized. -/
theorem jitGroup?_directoryGroup?_ofDomain (domain : String) :
    (IsUsable domain ↔ ∀ j, ∃ g, (ofDomain domain).directoryGroup? j = some g ∧
      g.email.parts.2 = Text.lower (Text.trim domain.toList) ∧
        (ofDomain domain).jitGroup? g = some j ∧ (ofDomain domain).isJitGroup g = true) ∧
    (¬ IsUsable domain ↔ ∀ g, (ofDomain domain).jitGroup? g = none) := by
  -- a domain is known to be usable as soon as one group is recognized, so there must be one to keep
  obtain ⟨j⟩ := (inferInstance : Nonempty JitGroup)
  refine ⟨⟨fun h j => ?_, fun h => ?_⟩, ⟨fun h g => ?_, fun h husable => ?_⟩⟩
  · obtain ⟨g, hg, hdomain, hrecognized⟩ := exists_directoryGroup?_ofDomain h j
    refine ⟨g, hg, hdomain, hrecognized, ?_⟩
    rw [isJitGroup, hrecognized]
    rfl
  · obtain ⟨g, _, _, hrecognized, _⟩ := h j
    exact isUsable_of_jitGroup? hrecognized
  · rw [Option.eq_none_iff_forall_ne_some]
    exact fun j hrecognized => h (isUsable_of_jitGroup? hrecognized)
  · obtain ⟨g, _, _, hrecognized⟩ := exists_directoryGroup?_ofDomain husable j
    rw [h g] at hrecognized
    cases hrecognized

end GroupNaming

end AccessGovernance
