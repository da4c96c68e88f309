import AccessGovernance.Identity.Principal

/-! # Group memberships -/

namespace AccessGovernance

/-- What a user is in a group, for instance a member or an owner, and until when. -/
structure Role where
  name : String
  expiry : Option Instant
deriving DecidableEq

structure Membership where
  roles : List Role
deriving DecidableEq

def Membership.expiry (m : Membership) : Option Instant :=
  (m.roles.filterMap Role.expiry).min?

/-- A membership of a user as the directory lists it: the group, and the identifier under which
the details can be looked up. -/
structure ListedMembership where
  group : DirectoryGroup
  id : String
deriving DecidableEq

end AccessGovernance
