import AccessGovernance.Error
import AccessGovernance.Settings.Value

/-! # Libraries for settings

Reading settings files, merging several sources and converting values is left to a library. What is
asked of it is to put values of keys, a file of any format that it reads and environment variables
into one tree, later sources over earlier ones.
-/

namespace AccessGovernance

/-- Where a setting stands: in a section, under a name. -/
structure SettingKey where
  part : String
  name : String
deriving DecidableEq

def SettingKey.path (k : SettingKey) : String :=
  k.part ++ "." ++ k.name

/-- Which environment variables are settings, and what separates the names in theirs. -/
structure VariableNames where
  start : String
  separator : String

structure SettingsLibrary where
  File : Type
  /-- Merges the values of keys, a file, if there is one, and environment variables. -/
  build : List (String × SettingValue) → Option File → VariableNames → List (String × String) →
    Except SettingsError SettingValue
  toText? : SettingValue → Option String
  toCount? : SettingValue → Option Nat

end AccessGovernance
