import AccessGovernance.Expression.Error
import AccessGovernance.Policy.Error

/-! # Errors of operations -/

namespace AccessGovernance

inductive SettingsError
  | malformedFile
  | missing (key : String)
  | wrongType (key : String)
  | invalidInternalDomain (domain : String)
deriving DecidableEq

def SettingsError.message : SettingsError → String
  | malformedFile => "the settings file is malformed"
  | missing key => "`" ++ key ++ "` is missing"
  | wrongType key => "`" ++ key ++ "` has the wrong type"
  | invalidInternalDomain domain =>
      "directory.internal_domain `" ++ domain ++ "` is not a valid domain"

inductive AccessError
  /-- The user, the membership or the group does not exist, or exists no longer. -/
  | notFound (what : String)
  | accessDenied (reason : String)
  /-- A backend failed; the operation may be tried again. -/
  | backend (reason : String)
  | policy (cause : PolicyError)
  | evaluation (cause : EvaluationError)
  | settings (cause : SettingsError)
  | scheduler (reason : String)
deriving DecidableEq

namespace AccessError

def isNotFound : AccessError → Bool
  | notFound _ => true
  | _ => false

def message : AccessError → String
  | notFound what => "Not found: " ++ what
  | accessDenied reason => "Access denied: " ++ reason
  | backend reason => "Backend I/O error: " ++ reason
  | policy cause => cause.message
  | evaluation cause => cause.message
  | settings cause => "Config error: " ++ cause.message
  | scheduler reason => "Scheduler error: " ++ reason

/-- The stable identifier of the kind of error. -/
def code : AccessError → String
  | notFound _ => "jitaccess::not_found"
  | accessDenied _ => "jitaccess::access_denied"
  | backend _ => "jitaccess::io"
  | policy cause => cause.code
  | evaluation cause => cause.code
  | settings _ => "jitaccess::config"
  | scheduler _ => "jitaccess::scheduler"

def help : AccessError → Option String
  | accessDenied _ => some "Check the ACLs of the environment, system and group policies"
  | policy cause => cause.help
  | evaluation cause => cause.help
  | _ => none

end AccessError

/-- An action of a backend on a state `σ`. One that fails may have changed the state, too. -/
abbrev Backend (σ : Type) (α : Type) :=
  σ → Except AccessError α × σ

end AccessGovernance
