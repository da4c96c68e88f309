import AccessGovernance.Identity.GroupNaming
import AccessGovernance.Identity.Subject
import AccessGovernance.Resolution.Lookup

/-! # Resolving subjects

A user is resolved to a subject in two steps. The user's memberships are listed, and those of groups
that stand for just-in-time groups are looked up one by one to learn when they expire. If one of
these look-ups fails for another reason than that the membership is gone, no just-in-time group is
included.
-/

namespace AccessGovernance

inductive Diagnostic
  /-- The membership was removed after it was listed. -/
  | membershipVanished (group : DirectoryGroup)
  /-- The group is named like a just-in-time group, but the membership does not expire. -/
  | missingExpiry (group : DirectoryGroup)
  | jitResolutionFailed (message : String)
deriving DecidableEq

namespace Completion

/-- The just-in-time group that the user holds until the membership expires. -/
def principal? (naming : GroupNaming) (c : Completion) : Option Principal :=
  match c.outcome with
  | .found membership =>
      membership.expiry.bind fun expiry =>
        (naming.jitGroup? c.group).map fun g => .temporary (.jitGroup g) expiry
  | _ => none

/-- Why the user does not hold the group. -/
def diagnostic? (c : Completion) : Option Diagnostic :=
  match c.outcome with
  | .found membership => if membership.expiry.isNone then some (.missingExpiry c.group) else none
  | _ => some (.membershipVanished c.group)

end Completion

structure JitMemberships where
  principals : List Principal
  diagnostics : List Diagnostic

/-- What follows from look-ups that were joined, or from the first that failed. -/
def JitMemberships.ofJoined (naming : GroupNaming) :
    Except AccessError (List Completion) → JitMemberships
  | .error cause => ⟨[], [.jitResolutionFailed cause.message]⟩
  | .ok joined =>
      ⟨joined.filterMap (Completion.principal? naming), joined.filterMap Completion.diagnostic?⟩

structure Resolution where
  subject : Subject
  diagnostics : List Diagnostic

structure Resolver where
  naming : GroupNaming
  internalDirectory : Directory
  /-- How many memberships are looked up at once. -/
  maxConcurrency : Nat
  maxConcurrency_pos : 0 < maxConcurrency

namespace Resolver

/-- A resolver that looks up at least one membership at once. -/
def make (naming : GroupNaming) (internalDirectory : Directory) (maxConcurrency : Nat) : Resolver :=
  ⟨naming, internalDirectory, max maxConcurrency 1,
    Nat.lt_of_lt_of_le Nat.one_pos (Nat.le_max_right ..)⟩

/-- The greatest number of look-ups that can be told to run at once. -/
def maxPermits : Nat :=
  0x1FFFFFFFFFFFFFFF

def lookups (r : Resolver) (listed : List ListedMembership) : List ListedMembership :=
  listed.filter fun m => r.naming.isJitGroup m.group

def plainGroups (r : Resolver) (listed : List ListedMembership) : List Principal :=
  (listed.filter fun m => !r.naming.isJitGroup m.group).map fun m => .permanent (.group m.group)

def listingError (user : User) (e : AccessError) : AccessError :=
  if e.isNotFound then
    .accessDenied ("resolving group memberships failed because the user `" ++ user.text ++
      "` does not exist")
  else e

variable {σ : Type}

/-- Looks memberships up, if there are any. How many run at once changes only what a scheduler can
pick, but for more than `maxPermits` this breaks off without a result. -/
def lookUpAll (r : Resolver) (client : GroupsClient σ) (scheduler : Tasks.Scheduler)
    (ms : List ListedMembership) (s : σ) : Option (Except AccessError (List Completion) × σ) :=
  if ms = [] then some (.ok [], s)
  else if r.maxConcurrency ≤ maxPermits then some (client.joinAll scheduler (.spawn ms) s)
  else none

def resolution (r : Resolver) (user : User) (directory : Directory)
    (listed : List ListedMembership) (joined : Except AccessError (List Completion)) : Resolution :=
  let jit := JitMemberships.ofJoined r.naming joined
  ⟨.ofUser user directory r.internalDirectory (r.plainGroups listed ++ jit.principals),
    jit.diagnostics⟩

def resolve (r : Resolver) (client : GroupsClient σ) (scheduler : Tasks.Scheduler) (user : User)
    (directory : Directory) (s : σ) : Option (Except AccessError Resolution × σ) :=
  match client.memberships user s with
  | (.error e, s) => some (.error (listingError user e), s)
  | (.ok listed, s) =>
      (r.lookUpAll client scheduler (r.lookups listed) s).map fun joined =>
        (.ok (r.resolution user directory listed joined.1), joined.2)

end Resolver

end AccessGovernance
