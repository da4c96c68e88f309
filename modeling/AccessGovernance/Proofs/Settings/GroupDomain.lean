import AccessGovernance.Proofs.Settings.Merging
import AccessGovernance.Proofs.Settings.UntypedText
import AccessGovernance.Settings

/-! # The domain of just-in-time groups in the settings

Settings that load give a resolver, since the domain of the own directory is checked. The domain of
the groups is not: every domain that is not usable can be loaded, and then no group is recognized as
a just-in-time group.
-/

namespace AccessGovernance

theorem GroupNaming.isUsable_iff_forall_jitGroup {domain : String} :
    IsUsable domain ↔ ∀ j, ∃ g, (ofDomain domain).directoryGroup? j = some g ∧
      (ofDomain domain).isJitGroup g = true ∧ (ofDomain domain).jitGroup? g = some j := by
  constructor
  · intro h j
    obtain ⟨g, hg, -, hrecognized⟩ := exists_directoryGroup?_ofDomain h j
    refine ⟨g, hg, ?_, hrecognized⟩
    rw [isJitGroup, hrecognized]
    rfl
  · intro h
    obtain ⟨j⟩ := (inferInstance : Nonempty JitGroup)
    obtain ⟨g, -, -, hrecognized⟩ := h j
    exact isUsable_of_jitGroup? hrecognized

theorem GroupNaming.isJitGroup_of_not_isUsable {domain : String} (h : ¬ IsUsable domain)
    (g : DirectoryGroup) : (ofDomain domain).isJitGroup g = false := by
  rw [isJitGroup, Option.isSome_eq_false_iff, Option.isNone_iff_eq_none,
    Option.eq_none_iff_forall_ne_some]
  exact fun j hrecognized => h (isUsable_of_jitGroup? hrecognized)

namespace Resolver

variable {r : Resolver}

theorem lookups_eq_nil (h : ∀ g, r.naming.isJitGroup g = false) (listed : List ListedMembership) :
    r.lookups listed = [] := by
  apply List.filter_eq_nil_iff.mpr
  intro m _
  rw [h]
  exact Bool.false_ne_true

theorem plainGroups_eq_map (h : ∀ g, r.naming.isJitGroup g = false)
    (listed : List ListedMembership) :
    r.plainGroups listed = listed.map fun m => .permanent (.group m.group) := by
  rw [plainGroups, List.filter_eq_self.mpr]
  intro m _
  rw [h]
  rfl

end Resolver

namespace Settings

open SettingValue

variable {s : Settings}

/-! ## Loading -/

theorem bind_eq_ok_iff {α β : Type} {x : Except SettingsError α} {f : α → Except SettingsError β}
    {b : β} : x.bind f = .ok b ↔ ∃ a, x = .ok a ∧ f a = .ok b := by
  cases x with
  | error e => exact iff_of_false nofun nofun
  | ok a =>
    constructor
    · exact fun h => ⟨a, rfl, h⟩
    · rintro ⟨_, heq, h⟩
      cases heq
      exact h

theorem internalDirectory_eq_ok_iff {directory : Directory} :
    s.internalDirectory = .ok directory ↔
      Directory.ofDomain? s.internalDomain = some directory := by
  rw [internalDirectory]
  cases Directory.ofDomain? s.internalDomain with
  | none => exact iff_of_false nofun nofun
  | some d => rw [Except.ok.injEq, Option.some.injEq]

variable {lib : SettingsLibrary} {file : Option lib.File} {environment : List (String × String)}

theorem directory_of_load (h : load lib file environment = .ok s) :
    ∃ directory, Directory.ofDomain? s.internalDomain = some directory := by
  obtain ⟨root, -, h⟩ := bind_eq_ok_iff.mp h
  obtain ⟨s', -, h⟩ := bind_eq_ok_iff.mp h
  obtain ⟨directory, hdirectory, heq⟩ := bind_eq_ok_iff.mp h
  cases heq
  exact ⟨directory, internalDirectory_eq_ok_iff.mp hdirectory⟩

theorem setting_eq_ok {α : Type} {root v : SettingValue} {k : SettingKey}
    {convert : SettingValue → Option α} {absent : Option α} {a : α}
    (hv : root.at? k = some v) (ha : convert v = some a) :
    setting root k convert absent = .ok a := by
  have hsection : (root.get? k.part).bind (sectionValue? k.name) = some (some v) := by
    obtain ⟨part, hpart, hname⟩ := Option.bind_eq_some_iff.mp hv
    rw [hpart, Option.bind_some]
    cases part with
    | table entries => exact congrArg some hname
    | _ => cases hname
  simp only [setting, hsection, ha]

/-! ## A group domain from the environment -/

theorem ofValue_of_groupDomain (hlib : lib.IsDocumented) {root v : SettingValue} {text : String}
    (hother : ∀ w ∈ builtIn.values, w.1 ≠ .groupDomain → root.at? w.1 = some w.2)
    (hdomain : root.at? .groupDomain = some v) (htext : lib.toText? v = some text) :
    ofValue lib root = .ok { builtIn with groupDomain := text } := by
  simp only [values, List.forall_mem_cons] at hother
  obtain ⟨hinternal, -, hconcurrency, hschedule, -⟩ := hother
  rw [ofValue, setting_eq_ok (hinternal (by decide)) (hlib.toText?_string _),
    setting_eq_ok hdomain htext,
    setting_eq_ok (hconcurrency (by decide)) (hlib.toCount?_integer _ (by decide)),
    setting_eq_ok (hschedule (by decide)) (hlib.toText?_string _)]
  rfl

theorem load_groupDomain (hlib : lib.IsDocumented) {domain text : String}
    (htext : lib.toText? (.ofUntyped domain) = some text) :
    load lib none [("JITACCESS__GROUPS__DOMAIN", domain)] =
      .ok { builtIn with groupDomain := text } := by
  have hvalues : ∀ v ∈ builtIn.values, SettingValue.IsPlain v := by
    simp only [values, List.forall_mem_cons]
    exact ⟨⟨by decide, rfl⟩, ⟨by decide, rfl⟩, ⟨by decide, rfl⟩, ⟨by decide, rfl⟩,
      List.forall_mem_nil _⟩
  have hnodup : (builtIn.values.map Prod.fst).Nodup := by decide
  have hwords : SettingKey.groupDomain.ConsistsOf Char.isLower := by decide
  have hnamed : SettingKey.groupDomain.IsNamed "JITACCESS" "JITACCESS__GROUPS__DOMAIN" := by
    decide +kernel
  have hdirectory : (Directory.ofDomain? builtIn.internalDomain).isSome = true := by
    decide +kernel
  obtain ⟨directory, hdirectory⟩ := Option.isSome_iff_exists.mp hdirectory
  obtain ⟨root, hbuild, hdomain, hother⟩ := hlib.build_variable builtIn.values "JITACCESS"
    .groupDomain "JITACCESS__GROUPS__DOMAIN" domain hvalues hnodup hwords hnamed
  have hroot := ofValue_of_groupDomain hlib hother hdomain htext
  exact bind_eq_ok_iff.mpr ⟨root, hbuild, bind_eq_ok_iff.mpr ⟨_, hroot,
    bind_eq_ok_iff.mpr ⟨directory, internalDirectory_eq_ok_iff.mpr hdirectory, rfl⟩⟩⟩

end Settings

/-! ## Resolvers -/

theorem Resolver.ofSettings_eq_ok_iff {s : Settings} {r : Resolver} :
    ofSettings s = .ok r ↔ ∃ directory, Directory.ofDomain? s.internalDomain = some directory ∧
      r = .make s.groupNaming directory s.maxConcurrency := by
  rw [ofSettings, Settings.internalDirectory]
  cases Directory.ofDomain? s.internalDomain with
  | none => exact iff_of_false nofun nofun
  | some d =>
    simp only [Except.map, Except.ok.injEq, Option.some.injEq, exists_eq_left']
    exact eq_comm

theorem Resolver.fields_of_ofSettings {s : Settings} {r : Resolver} (h : ofSettings s = .ok r) :
    r.naming = s.groupNaming ∧ Directory.ofDomain? s.internalDomain = some r.internalDirectory ∧
      r.maxConcurrency = max s.maxConcurrency 1 := by
  obtain ⟨directory, hdirectory, rfl⟩ := ofSettings_eq_ok_iff.mp h
  exact ⟨rfl, hdirectory, rfl⟩

/-- Settings that load give a resolver for the own directory, whatever library loads them. Its
convention works iff the domain of the groups is usable. Otherwise it takes every group for a plain
one. -/
theorem Resolver.ofSettings_of_load {lib : SettingsLibrary} {file : Option lib.File}
    {environment : List (String × String)} {s : Settings}
    (h : Settings.load lib file environment = .ok s) :
    ∃ r, ofSettings s = .ok r ∧ r.naming = s.groupNaming ∧
      Directory.ofDomain? s.internalDomain = some r.internalDirectory ∧
      r.maxConcurrency = max s.maxConcurrency 1 ∧
      (GroupNaming.IsUsable s.groupDomain ↔ ∀ j, ∃ g, r.naming.directoryGroup? j = some g ∧
        r.naming.isJitGroup g = true ∧ r.naming.jitGroup? g = some j) ∧
      (¬ GroupNaming.IsUsable s.groupDomain → ∀ listed, r.lookups listed = [] ∧
        r.plainGroups listed = listed.map fun m => .permanent (.group m.group)) := by
  obtain ⟨directory, hdirectory⟩ := Settings.directory_of_load h
  obtain ⟨r, hr⟩ : ∃ r, ofSettings s = .ok r :=
    ⟨_, ofSettings_eq_ok_iff.mpr ⟨directory, hdirectory, rfl⟩⟩
  obtain ⟨hnaming, hinternal, hconcurrency⟩ := fields_of_ofSettings hr
  refine ⟨r, hr, hnaming, hinternal, hconcurrency, ?_, fun hunusable listed => ?_⟩
  · rw [hnaming]
    exact GroupNaming.isUsable_iff_forall_jitGroup
  · have hnone : ∀ g, r.naming.isJitGroup g = false := by
      rw [hnaming]
      exact GroupNaming.isJitGroup_of_not_isUsable hunusable
    exact ⟨lookups_eq_nil hnone listed, plainGroups_eq_map hnone listed⟩

theorem Resolver.ofSettings_of_load_variable :
    ∃ s r, Settings.load .merging none [("JITACCESS__GROUPS__DOMAIN", "jit.example.com")] = .ok s ∧
      ofSettings s = .ok r ∧ ∀ j, ∃ g, r.naming.directoryGroup? j = some g ∧
        r.naming.isJitGroup g = true ∧ r.naming.jitGroup? g = some j := by
  have hload : Settings.load .merging none [("JITACCESS__GROUPS__DOMAIN", "jit.example.com")] =
      .ok { Settings.builtIn with groupDomain := "jit.example.com" } := by
    have htext : (SettingValue.ofUntyped "jit.example.com").toText? = some "jit.example.com" := by
      decide +kernel
    exact Settings.load_groupDomain SettingsLibrary.merging_isDocumented htext
  have husable : GroupNaming.IsUsable "jit.example.com" :=
    isUsable_of_isDomainChar (by decide) (List.all_eq_true.mp (by decide))
  obtain ⟨r, hr, -, -, -, hworks, -⟩ := ofSettings_of_load hload
  exact ⟨_, r, hload, hr, hworks.mp husable⟩

/-- No unusable domain is refused. -/
theorem Settings.load_of_not_isUsable {lib : SettingsLibrary} (hlib : lib.IsDocumented)
    {domain : String} (h : ¬ GroupNaming.IsUsable domain) :
    load lib none [("JITACCESS__GROUPS__DOMAIN", domain)] =
      .ok { builtIn with groupDomain := domain } := by
  apply load_groupDomain hlib
  rw [SettingValue.ofUntyped_of_not_isUsable h, hlib.toText?_string]

/-- An address is no domain, but it is loaded as one, and no group is recognized. -/
theorem Settings.load_of_address :
    ∃ s, load .merging none [("JITACCESS__GROUPS__DOMAIN", "admin@example.com")] = .ok s ∧
      ¬ ∀ j, ∃ g, s.groupNaming.directoryGroup? j = some g ∧
        s.groupNaming.isJitGroup g = true ∧ s.groupNaming.jitGroup? g = some j := by
  have hunusable : ¬ GroupNaming.IsUsable "admin@example.com" := fun h =>
    h.at_not_mem (by decide)
  refine ⟨_, load_of_not_isUsable SettingsLibrary.merging_isDocumented hunusable,
    fun hworks => hunusable ?_⟩
  exact GroupNaming.isUsable_iff_forall_jitGroup.mpr hworks

end AccessGovernance
