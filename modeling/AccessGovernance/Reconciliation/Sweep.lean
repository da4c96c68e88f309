import AccessGovernance.Policy.Decision
import AccessGovernance.Reconciliation.Environment

/-! # Reconciliation

The provisioned groups of an environment are reconciled one after the other, in the order in which
they are listed. A group that fails is recorded and stops neither the groups after it nor, in a
sweep over several environments, the environments after its own.
-/

namespace AccessGovernance

namespace Environment

variable {σ : Type}

def denied (e : Environment σ) (subject : Subject) (permission : Permissions) : AccessError :=
  .accessDenied ("the user `" ++ subject.user.text ++ "` lacks the " ++ permission.text ++
    " permission on environment `" ++ e.name ++ "`")

/-- Whether the environment's own policy allows a subject something. -/
def isAllowed (e : Environment σ) (subject : Subject) (permission : Permissions) (now : Instant) :
    Bool :=
  (Policy.Node.environment e.policy).isAllowedAt subject permission now

def reconcileGroup (e : Environment σ) (group : JitGroup) (s : σ) : ComplianceRecord × σ :=
  let provisioned := e.provisioner.directoryGroup group s
  match e.policy.group? group with
  | none => (⟨group, provisioned.1, none, none⟩, provisioned.2)
  | some node =>
      match e.provisioner.reconcile node provisioned.2 with
      | (.ok _, s) => (⟨group, provisioned.1, some node.group, none⟩, s)
      | (.error cause, s) => (⟨group, provisioned.1, some node.group, some cause⟩, s)

def reconcileGroups (e : Environment σ) : List JitGroup → σ → List ComplianceRecord × σ
  | [], s => ([], s)
  | group :: rest, s =>
      let first := e.reconcileGroup group s
      let more := e.reconcileGroups rest first.2
      (first.1 :: more.1, more.2)

def reconcile (e : Environment σ) (subject : Subject) (now : Instant) :
    Backend σ (List ComplianceRecord) := fun s =>
  if e.isAllowed subject .reconcile now then
    match e.provisioner.provisionedGroups s with
    | (.error cause, s) => (.error cause, s)
    | (.ok groups, s) =>
        let result := e.reconcileGroups groups s
        (.ok result.1, result.2)
  else (.error (e.denied subject .reconcile), s)

end Environment

structure ReconciliationRun where
  environment : String
  summary : Except AccessError ComplianceSummary

def sweep {σ : Type} (subject : Subject) (now : Instant) :
    List (Environment σ) → σ → List ReconciliationRun × σ
  | [], s => ([], s)
  | e :: rest, s =>
      let first := e.reconcile subject now s
      let more := sweep subject now rest first.2
      (⟨e.name, first.1.map ComplianceSummary.ofRecords⟩ :: more.1, more.2)

end AccessGovernance
