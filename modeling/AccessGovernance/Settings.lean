import AccessGovernance.Identity.GroupNaming
import AccessGovernance.Json.Record
import AccessGovernance.Resolution
import AccessGovernance.Settings.Library

/-! # Settings

Settings come from built-in values, from a file, if there is one, and from environment variables.
A library merges them. The directory of the organization must have a valid domain.
-/

namespace AccessGovernance

structure Settings where
  /-- The primary domain of the organization's own directory. -/
  internalDomain : String
  /-- The domain of the groups that stand for just-in-time groups. -/
  groupDomain : String
  /-- How many memberships are looked up at once. -/
  maxConcurrency : Nat
  /-- When provisioned groups are reconciled. -/
  schedule : String
deriving DecidableEq

namespace SettingKey

def internalDomain : SettingKey :=
  ⟨"directory", "internal_domain"⟩

def groupDomain : SettingKey :=
  ⟨"groups", "domain"⟩

def maxConcurrency : SettingKey :=
  ⟨"resolver", "max_concurrency"⟩

def schedule : SettingKey :=
  ⟨"reconciliation", "schedule"⟩

end SettingKey

namespace Settings

def builtIn : Settings where
  internalDomain := "example.com"
  groupDomain := "example.com"
  maxConcurrency := 8
  schedule := "0 0 * * * *"

def internalDirectory (s : Settings) : Except SettingsError Directory :=
  match Directory.ofDomain? s.internalDomain with
  | some d => .ok d
  | none => .error (.invalidInternalDomain s.internalDomain)

def groupNaming (s : Settings) : GroupNaming :=
  .ofDomain s.groupDomain

/-! ## Loading -/

def values (s : Settings) : List (SettingKey × SettingValue) :=
  [(.internalDomain, .string s.internalDomain), (.groupDomain, .string s.groupDomain),
    (.maxConcurrency, .integer s.maxConcurrency), (.schedule, .string s.schedule)]

/-- The only setting of a section. The section is a table, or a list that the setting comes first
in; otherwise there is no such section. -/
def sectionValue? (name : String) : SettingValue → Option (Option SettingValue)
  | .table entries => some (entries.lookup name)
  | .list items => some items.head?
  | _ => none

/-- The value of a setting. If it is absent from its section, it has the value `absent`, if there is
one. -/
def setting {α : Type} (root : SettingValue) (key : SettingKey)
    (convert : SettingValue → Option α) (absent : Option α) : Except SettingsError α :=
  match (root.get? key.part).bind (sectionValue? key.name) with
  | none => .error (.wrongType key.part)
  | some none =>
      match absent with
      | some a => .ok a
      | none => .error (.missing key.path)
  | some (some v) =>
      match convert v with
      | some a => .ok a
      | none => .error (.wrongType key.path)

def ofValue (lib : SettingsLibrary) (root : SettingValue) : Except SettingsError Settings := do
  let internalDomain ← setting root .internalDomain lib.toText? none
  let groupDomain ← setting root .groupDomain lib.toText? none
  let maxConcurrency ← setting root .maxConcurrency lib.toCount? (some builtIn.maxConcurrency)
  let schedule ← setting root .schedule lib.toText? (some builtIn.schedule)
  return ⟨internalDomain, groupDomain, maxConcurrency, schedule⟩

/-- Loads the settings from a file, if there is one, and environment variables, over the built-in
values. -/
def load (lib : SettingsLibrary) (file : Option lib.File) (environment : List (String × String)) :
    Except SettingsError Settings := do
  let root ← lib.build (builtIn.values.map fun v => (v.1.path, v.2)) file ⟨"JITACCESS", "__"⟩
    environment
  let settings ← ofValue lib root
  let _ ← settings.internalDirectory
  return settings

/-! ## The stored form -/

/-- The only field of a section. If it is absent, it has the value `absent`, if there is one. -/
def sectionField? {α : Type} (key : String) (convert : Json → Option α) (absent : Option α)
    (part : Option Json) : Option α :=
  match part.bind (Json.recordFields? [key]) with
  | some [some a] => convert a
  | some [none] => absent
  | _ => none

def countOfJson? (a : Json) : Option Nat :=
  (a.integer?.filter fitsUnsigned64).map Int.toNat

/-- Reads the stored form. All sections must be there; the settings of the resolver and of the
reconciliation have their built-in values if they are absent. -/
def ofJson? (a : Json) : Option Settings :=
  match Json.recordFields? ["directory", "groups", "resolver", "reconciliation"] a with
  | some [directory, groups, resolver, reconciliation] => do
      let internalDomain ← sectionField? "internal_domain" Json.string? none directory
      let groupDomain ← sectionField? "domain" Json.string? none groups
      let maxConcurrency ←
        sectionField? "max_concurrency" countOfJson? (some builtIn.maxConcurrency) resolver
      let schedule ← sectionField? "schedule" Json.string? (some builtIn.schedule) reconciliation
      return ⟨internalDomain, groupDomain, maxConcurrency, schedule⟩
  | _ => none

end Settings

def Resolver.ofSettings (s : Settings) : Except SettingsError Resolver :=
  s.internalDirectory.map fun d => .make s.groupNaming d s.maxConcurrency

end AccessGovernance
