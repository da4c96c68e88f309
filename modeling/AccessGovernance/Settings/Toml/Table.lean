import AccessGovernance.Settings.Value

/-! # TOML tables

What a document may say about its tables. A table is introduced by a header of its own, or only as a
part of the header of another table, or by keys with dots. Each may be introduced once: a header
takes over a table that so far was only part of other headers, and keys with dots extend only tables
that such keys have made. No value is set twice.
-/

namespace AccessGovernance

namespace Toml

inductive Origin
  | header
  | implied
  | dotted
deriving DecidableEq

inductive Item
  | value (v : SettingValue)
  | table (origin : Origin) (entries : List (String × Item))
  /-- The elements of an array of tables, all of them introduced by headers. -/
  | tables (elements : List Item)

abbrev Entries := List (String × Item)

/-- Sets the item of a key in place, or adds it at the end. -/
def Entries.put (key : String) (item : Item) : Entries → Entries
  | [] => [(key, item)]
  | e :: rest => if e.1 = key then (key, item) :: rest else e :: Entries.put key item rest

/-- Changes the table at the end of a path, that is in the last element of each array of tables on
the way. Tables that are missing are made, as `made`. -/
def updateAt (made : Origin) (change : Origin → Entries → Option Entries) :
    List String → Origin → Entries → Option Entries
  | [], origin, entries => change origin entries
  | key :: rest, _, entries =>
      match entries.lookup key with
      | none =>
          (updateAt made change rest made []).map fun es => entries.put key (.table made es)
      | some (.value _) => none
      | some (.table origin es) =>
          if made = .dotted ∧ origin = .header then none
          else
            (updateAt made change rest origin es).map fun es => entries.put key (.table origin es)
      | some (.tables elements) =>
          match elements.getLast? with
          | some (.table origin es) =>
              (updateAt made change rest origin es).map fun es =>
                entries.put key (.tables (elements.dropLast ++ [.table origin es]))
          | _ => none

def startTable (key : String) (_ : Origin) (entries : Entries) : Option Entries :=
  match entries.lookup key with
  | none => some (entries.put key (.table .header []))
  | some (.table .implied es) => some (entries.put key (.table .header es))
  | _ => none

def startElement (key : String) (_ : Origin) (entries : Entries) : Option Entries :=
  match entries.lookup key with
  | none => some (entries.put key (.tables [.table .header []]))
  | some (.tables elements) =>
      some (entries.put key (.tables (elements ++ [.table .header []])))
  | _ => none

def setValue (key : String) (hasDots : Bool) (v : SettingValue) (origin : Origin)
    (entries : Entries) : Option Entries :=
  if hasDots && origin ≠ .dotted then none
  else if (entries.lookup key).isSome then none
  else some (entries.put key (.value v))

def define (key : List String) (v : SettingValue) (entries : Entries) : Option Entries :=
  match key.getLast? with
  | none => none
  | some last =>
      updateAt .dotted (setValue last (!key.dropLast.isEmpty) v) key.dropLast .header entries

mutual

def Item.toValue : Item → SettingValue
  | .value v => v
  | .table _ entries => .table (entriesToValues entries)
  | .tables elements => .list (itemsToValues elements)
termination_by structural i => i

def entriesToValues : List (String × Item) → List (String × SettingValue)
  | [] => []
  | (key, item) :: rest => (key, item.toValue) :: entriesToValues rest
termination_by structural es => es

def itemsToValues : List Item → List SettingValue
  | [] => []
  | item :: rest => item.toValue :: itemsToValues rest
termination_by structural is => is

end

end Toml

end AccessGovernance
