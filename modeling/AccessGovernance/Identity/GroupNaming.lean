import AccessGovernance.Identity.Principal

/-! # The naming convention for just-in-time groups

A just-in-time group is kept in the directory as the group `jit.environment.system.name@domain`.
The convention only looks at addresses.
-/

namespace AccessGovernance

structure GroupNaming where
  domain : String
deriving DecidableEq

namespace GroupNaming

def ofDomain (domain : String) : GroupNaming :=
  ⟨String.ofList (Text.canonical domain.toList)⟩

/-- The just-in-time group that a directory group stands for, if its address follows the
convention. -/
def jitGroup? (naming : GroupNaming) (group : DirectoryGroup) : Option JitGroup :=
  if group.email.parts.2 = naming.domain.toList then
    match Text.fields '.' group.email.parts.1 with
    | start :: labels => if start = "jit".toList then JitGroup.ofFields? labels else none
    | [] => none
  else none

def isJitGroup (naming : GroupNaming) (group : DirectoryGroup) : Bool :=
  (naming.jitGroup? group).isSome

/-- The directory group that stands for a just-in-time group, if the convention's domain is one. -/
def directoryGroup? (naming : GroupNaming) (group : JitGroup) : Option DirectoryGroup :=
  DirectoryGroup.ofText? ("jit." ++ group.text ++ "@" ++ naming.domain)

end GroupNaming

end AccessGovernance
