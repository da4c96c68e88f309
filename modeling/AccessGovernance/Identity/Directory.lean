import AccessGovernance.Text.Canonical

/-! # Directories

A user account belongs to no directory of an organization (a consumer account), to a project, or
to a managed directory that is known by its primary domain.
-/

namespace AccessGovernance

/-- The primary domain of a managed directory: not empty, without `@`, trimmed and in lower
case. -/
structure HostedDomain where
  text : String
  canonical : Text.canonicalWithout? '@' text.toList = some text.toList
deriving DecidableEq

namespace HostedDomain

def ofChars? (s : List Char) : Option HostedDomain :=
  match h : Text.canonicalWithout? '@' s with
  | none => none
  | some t => some ⟨String.ofList t, by simpa using Text.canonicalWithout?_idem h⟩

theorem toList_ne_nil (d : HostedDomain) : d.text.toList ≠ [] :=
  (Text.canonicalWithout?_eq_some_iff.1 d.canonical).2.1

theorem trim_toList (d : HostedDomain) : Text.trim d.text.toList = d.text.toList := by
  rw [(Text.canonicalWithout?_eq_some_iff.1 d.canonical).1, Text.trim_canonical]

theorem ofChars?_toList (d : HostedDomain) : ofChars? d.text.toList = some d := by
  unfold ofChars?
  split
  · rename_i h
    simp [d.canonical] at h
  · rename_i t h
    rw [d.canonical] at h
    obtain rfl := Option.some.inj h
    simp

end HostedDomain

inductive Directory
  | consumer
  | project
  | managed (domain : HostedDomain)
deriving DecidableEq

namespace Directory

def ofDomain? (domain : String) : Option Directory :=
  (HostedDomain.ofChars? domain.toList).map managed

def hostedDomain? : Directory → Option HostedDomain
  | managed d => some d
  | _ => none

def isManaged (d : Directory) : Bool :=
  d.hostedDomain?.isSome

def text : Directory → String
  | consumer => "CONSUMER"
  | project => "PROJECT"
  | managed d => d.text

end Directory

end AccessGovernance
