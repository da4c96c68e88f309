import AccessGovernance.Reconciliation.Sweep

/-! # The catalog

What a subject sees of an environment. Systems and groups that the subject may not view are absent
from listings, and looking them up finds nothing.
-/

namespace AccessGovernance

/-- A subject's view of an environment at a moment. -/
structure Catalog (σ : Type) where
  environment : Environment σ
  subject : Subject
  now : Instant

structure SystemView where
  node : Policy.SystemNode
  subject : Subject
  now : Instant

namespace Catalog

variable {σ : Type}

def canExport (c : Catalog σ) : Bool :=
  c.environment.isAllowed c.subject .exportPolicy c.now

def canReconcile (c : Catalog σ) : Bool :=
  c.environment.isAllowed c.subject .reconcile c.now

/-- The policy document, if the environment has a source for it. -/
def exportDocument (c : Catalog σ) : Backend σ (Option PolicyDocument) := fun s =>
  if c.canExport then
    match c.environment.source with
    | none => (.ok none, s)
    | some load =>
        match load s with
        | (.ok document, s) => (.ok (some document), s)
        | (.error cause, s) => (.error cause, s)
  else (.error (c.environment.denied c.subject .exportPolicy), s)

def shows (c : Catalog σ) (s : Policy.SystemNode) : Bool :=
  (Policy.Node.system s).isAllowedAt c.subject .view c.now

def view (c : Catalog σ) (s : Policy.SystemNode) : SystemView :=
  ⟨s, c.subject, c.now⟩

def systems (c : Catalog σ) : List SystemView :=
  (c.environment.policy.systemNodes.filter c.shows).map c.view

/-- The system of that name, if the subject may view it. -/
def system? (c : Catalog σ) (name : String) : Option SystemView :=
  ((c.environment.policy.system? name).filter c.shows).map c.view

def reconcile (c : Catalog σ) : Backend σ (List ComplianceRecord) :=
  c.environment.reconcile c.subject c.now

end Catalog

namespace SystemView

def shows (v : SystemView) (g : Policy.GroupNode) : Bool :=
  (Policy.Node.group g).isAllowedAt v.subject .view v.now

def groups (v : SystemView) : List Policy.GroupNode :=
  v.node.groups.filter v.shows

/-- The group of that name, if the subject may view it. -/
def group? (v : SystemView) (name : String) : Option Policy.GroupNode :=
  (v.node.group? name).filter v.shows

def canJoin (v : SystemView) (g : Policy.GroupNode) : Bool :=
  (Policy.Node.group g).isAllowedAt v.subject .join v.now

end SystemView

end AccessGovernance
