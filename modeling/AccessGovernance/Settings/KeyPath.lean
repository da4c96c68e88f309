import AccessGovernance.Settings.Library
import AccessGovernance.Text.Split

/-! # Keys of settings

A key names a setting inside of nested tables by its path: names with dots between them, and
positions in brackets after a name. A key that is no path is a single name as it stands.
-/

namespace AccessGovernance

namespace SettingValue

def isNamePart (c : Char) : Bool :=
  c.isAlphanum || c = '_' || c = '-' || c = ' '

def namedSteps? (part : List Char) : Option (List Step) :=
  let name := part.takeWhile isNamePart
  match Text.fields '[' (part.dropWhile isNamePart) with
  | [] :: positions =>
      if name = [] then none
      else
        (positions.mapM position?).map fun ps => .key (String.ofList name) :: ps
  | _ => none
where
  isBlank (c : Char) : Bool :=
    c = ' ' || c = '\t'
  position? (s : List Char) : Option Step :=
    if s.getLast? = some ']' then
      let n :=
        match ((s.dropLast.dropWhile isBlank).reverse.dropWhile isBlank).reverse with
        | '-' :: digits => (natOfDigits? 10 digits).map fun n => -(n : Int)
        | digits => (natOfDigits? 10 digits).map Int.ofNat
      (n.filter fitsSigned64).map .position
    else none

def stepsOfKey (key : String) : List Step :=
  match (Text.fields '.' key.toList).mapM namedSteps? with
  | some steps => steps.flatten
  | none => [.key key]

/-! ## Environment variables -/

/-- Puts a dot in the place of each separator. -/
def dotted (separator : List Char) : List Char → List Char
  | [] => []
  | c :: rest =>
      if separator ≠ [] ∧ separator.isPrefixOf (c :: rest) then
        '.' :: dotted separator (rest.drop (separator.length - 1))
      else c :: dotted separator rest
termination_by s => s.length
decreasing_by all_goals grind

/-- The key that an environment variable sets, if its name has the right start, in any case. -/
def keyOfVariable? (names : VariableNames) (name : String) : Option String :=
  let start := Text.lower (names.start ++ names.separator).toList
  let lower := Text.lower name.toList
  if start.isPrefixOf lower then
    some (String.ofList (dotted names.separator.toList (lower.drop start.length)))
  else none

end SettingValue

end AccessGovernance
