import AccessGovernance.Identity.Subject
import AccessGovernance.Json.Record
import AccessGovernance.Policy.Permissions

/-! # Access-control lists

A list of entries that allow or deny permissions to principals. A list decides a permission if an
entry for one of the given principals has all of it; a denying entry then outweighs all others,
wherever it stands.
-/

namespace AccessGovernance

inductive Effect
  | allow
  | deny
deriving DecidableEq

namespace Effect

def name : Effect → String
  | allow => "Allow"
  | deny => "Deny"

def ofJson? (a : Json) : Option Effect :=
  a.alternative?.bind fun name => [allow, deny].find? fun e => e.name = name

end Effect

def Permissions.ofJson? (a : Json) : Option Permissions :=
  a.string?.bind ofSerialized?

structure AccessEntry where
  principal : PrincipalId
  effect : Effect
  permissions : Permissions
deriving DecidableEq

abbrev AccessList := List AccessEntry

abbrev PrincipalSet := Ascending (compare : PrincipalId → PrincipalId → Ordering)

namespace AccessEntry

def applies (e : AccessEntry) (held : PrincipalSet) (permission : Permissions) : Bool :=
  e.permissions.contains permission && held.contains e.principal

end AccessEntry

namespace AccessList

/-- The effect of the entries that apply, given the decision of those before them. -/
def decideFrom (held : PrincipalSet) (permission : Permissions) :
    AccessList → Option Effect → Option Effect
  | [], decision => decision
  | e :: rest, decision =>
      if e.applies held permission then
        match e.effect with
        | .deny => some .deny
        | .allow => decideFrom held permission rest (some .allow)
      else decideFrom held permission rest decision

def decide (acl : AccessList) (held : PrincipalSet) (permission : Permissions) : Option Effect :=
  decideFrom held permission acl none

end AccessList

end AccessGovernance
