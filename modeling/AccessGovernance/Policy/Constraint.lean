import AccessGovernance.Policy.Error
import AccessGovernance.Text.Canonical

/-! # Constraints

A constraint is a named condition on joining a group, or on approving that somebody joins: a limit
on how long the membership may last, or a boolean expression over inputs that are asked for.
-/

namespace AccessGovernance

structure Duration where
  nanoseconds : Int
deriving DecidableEq

namespace Duration

def ofSeconds (n : Int) : Duration :=
  ⟨n * 1000000000⟩

@[simp]
theorem nanoseconds_ofSeconds (n : Int) : (ofSeconds n).nanoseconds = n * 1000000000 :=
  rfl

/-- The seconds of a duration without the rest, in the direction of zero. -/
def wholeSeconds (d : Duration) : Int :=
  d.nanoseconds.tdiv 1000000000

end Duration

inductive PropertyType
  | string
  | int
  | bool
  /-- A number of seconds. -/
  | duration
deriving DecidableEq

def PropertyType.name : PropertyType → String
  | string => "string"
  | int => "int"
  | bool => "bool"
  | duration => "duration"

structure Property where
  name : String
  displayName : String
  type : PropertyType
  required : Bool
  min : Option Int
  max : Option Int
deriving DecidableEq

inductive ConstraintRule
  /-- The membership lasts at least and at most so long. -/
  | expiry (min max : Duration)
  /-- The expression is true of the inputs that are asked for. -/
  | expression (text : String) (asked : List Property)
deriving DecidableEq

/-- Whether a limit on the duration can be kept: it is positive and its ends are in order. -/
def ConstraintRule.isPossible : ConstraintRule → Bool
  | expiry min max => 0 < min.nanoseconds && min.nanoseconds ≤ max.nanoseconds
  | expression .. => true

structure Constraint where
  name : String
  displayName : String
  rule : ConstraintRule
  name_ne_empty : name ≠ ""
  canonical_name : Text.canonical name.toList = name.toList
  possible : rule.isPossible = true
deriving DecidableEq

namespace Constraint

/-- A constraint under the canonical form of a name. It is shown under that name unless there is
another one for it. -/
def make (name displayName : String) (rule : ConstraintRule) : Except PolicyError Constraint :=
  let canonical := String.ofList (Text.canonical name.toList)
  if hn : canonical = "" then
    .error (.invalidConstraint canonical "the constraint must have a name")
  else if hp : rule.isPossible = true then
    .ok
      { name := canonical
        displayName := if Text.trim displayName.toList = [] then canonical else displayName
        rule := rule
        name_ne_empty := hn
        canonical_name := by simp [canonical]
        possible := hp }
  else
    .error (.invalidConstraint canonical
      "expiry must be positive and min must not exceed max")

def expiry (min max : Duration) : Except PolicyError Constraint :=
  make "expiry" "Expiry" (.expiry min max)

/-- What is asked for. A limit that leaves no choice asks for nothing. -/
def properties (c : Constraint) : List Property :=
  match c.rule with
  | .expiry min max =>
      if min = max then []
      else
        [{ name := "expiry"
           displayName := "Expiry (seconds)"
           type := .duration
           required := true
           min := some min.wholeSeconds
           max := some max.wholeSeconds }]
  | .expression _ asked => asked

end Constraint

/-- When a constraint is checked: on joining a group, or on approving that somebody joins. -/
inductive ConstraintClass
  | join
  | approve
deriving DecidableEq

end AccessGovernance
