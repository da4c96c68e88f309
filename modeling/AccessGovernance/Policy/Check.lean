import AccessGovernance.Expression.Evaluation
import AccessGovernance.Expression.Parser
import AccessGovernance.Identity.Subject
import AccessGovernance.Policy.Constraint

/-! # Checking constraints

The inputs of a check are matched against the properties of its constraint. An expression sees the
declared inputs under `input`, and other values of the context, such as the subject, beside it.
-/

namespace AccessGovernance

/-- The values of a request: what its user entered, and what is known about it otherwise. -/
structure CheckInput where
  inputs : List (String × Json)
  context : List (String × Json)

namespace CheckInput

def empty : CheckInput :=
  ⟨[], []⟩

def withInput (i : CheckInput) (name : String) (value : Json) : CheckInput :=
  { i with inputs := Json.putField name value i.inputs }

def withContext (i : CheckInput) (name : String) (value : Json) : CheckInput :=
  { i with context := Json.putField name value i.context }

def withSubject (i : CheckInput) (subject : Subject) (now : Instant) : CheckInput :=
  i.withContext "subject" (.ofFields
    [("email", .string subject.user.email.text),
     ("principals", .array ((subject.idsAt now).toList.map fun p => .string p.text))])

end CheckInput

namespace Property

/-- Whether a value is in range; an error, if it has another type. -/
def validate (p : Property) (value : Json) : Except EvaluationError Bool :=
  match p.type, value with
  | .string, .string _ => .ok true
  | .string, _ => .error (.invalidInput p.name "expected a string")
  | .bool, .bool _ => .ok true
  | .bool, _ => .error (.invalidInput p.name "expected a boolean")
  | .int, value | .duration, value =>
      match value.integer? with
      | some n =>
          if fitsSigned64 n then .ok (p.min.all (· ≤ n) && p.max.all (n ≤ ·))
          else .error (.invalidInput p.name "expected an integer")
      | none => .error (.invalidInput p.name "expected an integer")

end Property

/-- The values of declared properties, and whether all of them are in range. -/
structure Declared where
  inRange : Bool
  values : List (String × Json)

def Declared.add (inputs : List (String × Json)) (d : Declared) (p : Property) :
    Except EvaluationError Declared :=
  match inputs.lookup p.name with
  | some value => do
      let inRange ← p.validate value
      return ⟨d.inRange && inRange, Json.putField p.name value d.values⟩
  | none =>
      if p.required then .error (.missingInput p.name)
      else .ok ⟨d.inRange, Json.putField p.name .null d.values⟩

namespace Constraint

def check (c : Constraint) (input : CheckInput) : Except EvaluationError Bool := do
  let declared ← c.properties.foldlM (Declared.add input.inputs) ⟨true, []⟩
  if !declared.inRange then return false
  match c.rule with
  | .expiry .. => return true
  | .expression text _ =>
      match Expression.ofText text with
      | .error cause => throw (.malformed cause)
      | .ok e =>
          e.evaluate (.object (Json.putField "input" (.object declared.values) input.context))

end Constraint

end AccessGovernance
