import AccessGovernance.Policy.Tree

/-! # What applies at a policy

Permissions and constraints are inherited. A permission is decided by the nearest policy whose list
decides it. A constraint takes the place of those of the same name and class that stand further up.
-/

namespace AccessGovernance

namespace Policy

namespace Node

def decide (n : Node) (held : PrincipalSet) (permission : Permissions) : Option Effect :=
  n.ancestry.findSome? fun m => m.header.acl.bind fun acl => acl.decide held permission

/-- Whether a subject has all of the permissions at a moment. What no policy decides is denied. -/
def isAllowedAt (n : Node) (subject : Subject) (required : Permissions) (t : Instant) : Bool :=
  required.parts.all fun permission => n.decide (subject.idsAt t) permission = some .allow

/-- Of constraints with one name the first, without those whose name is among `seen`. -/
def firstOfEachName (seen : List String) : List Constraint → List Constraint
  | [] => []
  | c :: rest =>
      if c.name ∈ seen then firstOfEachName seen rest
      else c :: firstOfEachName (c.name :: seen) rest

/-- The constraints of a class that apply: those of the policy, then the inherited ones. -/
def constraints (n : Node) (class' : ConstraintClass) : List Constraint :=
  firstOfEachName [] (n.ancestry.flatMap fun m => m.header.constraints class')

end Node

end Policy

end AccessGovernance
