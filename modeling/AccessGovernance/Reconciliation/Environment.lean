import AccessGovernance.Reconciliation.Compliance
import AccessGovernance.Text.Quoted

/-! # Environments and their backends

An environment is a policy tree with the backends that own its live state: a provisioner, which
keeps the directory groups that stand for just-in-time groups, and perhaps a source from which the
policy document can be loaded. Backends act on a state of any type, which several environments may
share.
-/

namespace AccessGovernance

structure Provisioner (σ : Type) where
  /-- The groups that are provisioned now, with or without a policy. -/
  provisionedGroups : Backend σ (List JitGroup)
  /-- The directory group that stands for a just-in-time group. -/
  directoryGroup : JitGroup → σ → DirectoryGroup × σ
  reconcile : Policy.GroupNode → Backend σ Unit

structure PolicyDocument where
  environment : String
  text : String
deriving DecidableEq

def PolicyDocument.ofJson? (a : Json) : Option PolicyDocument :=
  match a.recordFields? ["environment", "text"] with
  | some [some (.string environment), some (.string text)] => some ⟨environment, text⟩
  | _ => none

structure Environment (σ : Type) where
  policy : Policy.EnvironmentTree
  provisioner : Provisioner σ
  source : Option (Backend σ PolicyDocument)

namespace Environment

variable {σ : Type}

def name (e : Environment σ) : String :=
  e.policy.name

/-- A short text for logs, which leaves out the backends. -/
def description (e : Environment σ) : String :=
  "Environment \x7b name: " ++ Text.quoted e.name ++ ", has_source: " ++
    (if e.source.isSome then "true" else "false") ++ ", .. \x7d"

end Environment

end AccessGovernance
