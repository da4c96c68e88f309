import AccessGovernance.Json.Reader
import AccessGovernance.Settings.KeyPath
import AccessGovernance.Settings.Toml.Document

/-! # Merging the sources of settings

A library for settings that reads files in two formats. The variables are merged into the file, and
what this gives is merged into the values of keys.
-/

namespace AccessGovernance

inductive FileFormat
  | toml
  | json
deriving DecidableEq

structure SettingsFile where
  format : FileFormat
  text : String
deriving DecidableEq

namespace SettingsFile

def entries (file : SettingsFile) : Except SettingsError (List (String × SettingValue)) :=
  let root :=
    match file.format with
    | .toml => Toml.ofText? file.text
    | .json => (Json.ofText? file.text).map SettingValue.ofJson
  match root with
  | some (.table entries) => .ok entries
  | _ => .error .malformedFile

end SettingsFile

namespace SettingValue

/-- Sets the values of keys one after the other over those that a table holds. -/
def override (root : SettingValue) (entries : List (String × SettingValue)) : SettingValue :=
  entries.foldl (fun v e => .setAt e.2 (stepsOfKey e.1) (some v)) root

def environmentEntries (names : VariableNames) (environment : List (String × String)) :
    List (String × SettingValue) :=
  environment.filterMap fun v => (keyOfVariable? names v.1).map fun key => (key, ofUntyped v.2)

end SettingValue

namespace SettingsLibrary

open SettingValue

/-- The file and the variables are merged before the values of keys come in: a section that a
variable makes a table of is then merged into the one of the keys, even if the file has a value of
another kind for it. -/
def merging : SettingsLibrary where
  File := SettingsFile
  build values file names environment := do
    let fromFile ←
      match file with
      | some file => file.entries
      | none => .ok []
    let given := override (.table []) (fromFile ++ environmentEntries names environment)
    return override (override (.table []) values) given.entries
  toText? := SettingValue.toText?
  toCount? := SettingValue.toCount?

end SettingsLibrary

end AccessGovernance
