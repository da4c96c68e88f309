/-! # Errors in policies -/

namespace AccessGovernance

/-- The levels of policies below the root. -/
inductive PolicyLevel
  | system
  | group
deriving DecidableEq

def PolicyLevel.name : PolicyLevel → String
  | system => "system"
  | group => "group"

inductive PolicyError
  | blankName
  | invalidName (name : String)
  | duplicateName (level : PolicyLevel) (name : String)
  | duplicateConstraint (policy name : String)
  | invalidConstraint (name reason : String)
  | invalidPrincipal (text : String)
  | invalidPermission (name : String)
deriving DecidableEq

namespace PolicyError

def message : PolicyError → String
  | blankName => "The policy must have a name"
  | invalidName name => "Invalid policy name `" ++ name ++ "`"
  | duplicateName level name => "Duplicate " ++ level.name ++ " policy `" ++ name ++ "`"
  | duplicateConstraint policy name =>
      "Duplicate constraint `" ++ name ++ "` in policy `" ++ policy ++ "`"
  | invalidConstraint name reason => "Invalid constraint `" ++ name ++ "`: " ++ reason
  | invalidPrincipal text => "Invalid principal `" ++ text ++ "`"
  | invalidPermission name => "Invalid permission `" ++ name ++ "`"

def code : PolicyError → String
  | blankName => "jitaccess::policy::blank_name"
  | invalidName _ => "jitaccess::policy::invalid_name"
  | duplicateName .. => "jitaccess::policy::duplicate_name"
  | duplicateConstraint .. => "jitaccess::policy::duplicate_constraint"
  | invalidConstraint .. => "jitaccess::policy::invalid_constraint"
  | invalidPrincipal _ => "jitaccess::policy::invalid_principal"
  | invalidPermission _ => "jitaccess::policy::invalid_permission"

def help : PolicyError → Option String
  | invalidName _ => some "Policy names must not contain dots or whitespace"
  | duplicateName .. =>
      some "Policy names are case-insensitive and must be unique within their parent"
  | duplicateConstraint .. =>
      some "Constraint names must be unique per constraint class within a policy"
  | invalidPrincipal _ =>
      some ("Principals use the syntax type:value, e.g. user:alice@example.com or " ++
        "group:admins@example.com")
  | invalidPermission _ =>
      some ("Supported permissions: VIEW, JOIN, APPROVE_OTHERS, APPROVE_SELF, EXPORT, " ++
        "RECONCILE")
  | blankName | invalidConstraint .. => none

end PolicyError

end AccessGovernance
