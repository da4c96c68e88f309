import AccessGovernance.Identity.Principal
import AccessGovernance.Order.Ascending

/-! # Subjects

A subject is an authenticated user with the set of all principals that the user holds. Which
classes and domain it holds follows from the user's directory alone; principals of these kinds, and
other users, cannot be given.
-/

namespace AccessGovernance

structure Subject where
  user : User
  principals : Ascending (compare : Principal → Principal → Ordering)

namespace Subject

def classOf (directory internal : Directory) : UserClass :=
  if directory.isManaged && directory = internal then .internal else .external

/-- The principals that a user holds on account of being that user of that directory. -/
def ownPrincipals (user : User) (directory internal : Directory) : List Principal :=
  .permanent (.userClass .proxied) :: .permanent (.user user) ::
    .permanent (.userClass (classOf directory internal)) ::
    (directory.hostedDomain?.map fun d => Principal.permanent (.domain d)).toList

def isGivable (p : Principal) : Bool :=
  match p.id with
  | .group _ | .serviceAccount _ | .jitGroup _ => true
  | .user _ | .userClass _ | .domain _ => false

/-- The subject of a user that is given further principals, as a rule its groups. `internal` is
the organization's own directory. -/
def ofUser (user : User) (directory internal : Directory) (given : List Principal) : Subject :=
  ⟨user, .ofList (ownPrincipals user directory internal ++ given.filter isGivable)⟩

def idsAt (s : Subject) (t : Instant) :
    Ascending (compare : PrincipalId → PrincipalId → Ordering) :=
  .ofList ((s.principals.toList.filter fun p => p.isValidAt t).map Principal.id)

def isInternal (s : Subject) : Bool :=
  s.principals.toList.any fun p => p.id = .userClass .internal

end Subject

end AccessGovernance
