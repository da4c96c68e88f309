import AccessGovernance.Proofs.Policy.Authorization
import AccessGovernance.Proofs.Policy.Lookup
import AccessGovernance.Reconciliation.Sweep

/-! # What reconciling calls and records

The backends of an environment are replaced by ones that do the same and write their calls down, so
that what happens on any backend can be compared with what is recorded about it: one record for each
listed group, and one call to reconcile each of those that a policy declares.
-/

namespace AccessGovernance

inductive BackendCall
  | list (answer : Except AccessError (List JitGroup))
  | directoryGroup (group : JitGroup) (answer : DirectoryGroup)
  | reconcile (node : Policy.GroupNode) (answer : Except AccessError Unit)
  | load (answer : Except AccessError PolicyDocument)

def AccessError.ofAnswer? {α : Type} : Except AccessError α → Option AccessError
  | .ok _ => none
  | .error cause => some cause

/-- What is done about a listed group: the backend is asked for its directory group, and to
reconcile it, if it has a policy. -/
structure Visit where
  group : JitGroup
  provisioned : DirectoryGroup
  reconciled : Option (Policy.GroupNode × Except AccessError Unit)

namespace Visit

def calls (v : Visit) : List BackendCall :=
  .directoryGroup v.group v.provisioned ::
    (v.reconciled.map fun c => BackendCall.reconcile c.1 c.2).toList

def error? (v : Visit) : Option AccessError :=
  v.reconciled.bind fun c => AccessError.ofAnswer? c.2

end Visit

namespace Environment

variable {σ : Type}

def recorded {α : Type} (action : Backend σ α) (call : Except AccessError α → BackendCall) :
    Backend (σ × List BackendCall) α := fun s =>
  ((action s.1).1, (action s.1).2, s.2 ++ [call (action s.1).1])

/-- The environment with backends that write their calls down. -/
def recording (e : Environment σ) : Environment (σ × List BackendCall) where
  policy := e.policy
  provisioner :=
    { provisionedGroups := recorded e.provisioner.provisionedGroups .list
      directoryGroup := fun group s =>
        let answer := e.provisioner.directoryGroup group s.1
        (answer.1, answer.2, s.2 ++ [.directoryGroup group answer.1])
      reconcile := fun node => recorded (e.provisioner.reconcile node) (.reconcile node) }
  source := e.source.map fun load => recorded load .load

/-- Records of the listed groups, and what was done about each of them. -/
structure IsSwept (e : Environment σ) (listed : List JitGroup) (visits : List Visit)
    (records : List ComplianceRecord) : Prop where
  groups : records.map ComplianceRecord.group = listed
  visited : visits.map Visit.group = listed
  provisioned : records.map ComplianceRecord.provisioned = visits.map Visit.provisioned
  /-- The policy of a record is that of the group with its id, and missing if there is none. -/
  policies : ∀ r ∈ records, ∀ p, r.policy = some p ↔
    ∃ g ∈ e.policy.groupNodes, g.id = r.group ∧ g.group = p
  /-- Which groups are reconciled follows from the policies, whatever earlier calls answered. -/
  called : visits.map (fun v => v.reconciled.map Prod.fst) = listed.map e.policy.group?
  /-- The error of a record is that of reconciling its own group, if that failed. -/
  answered : records.map ComplianceRecord.error = visits.map Visit.error?
  orphaned : ∀ r ∈ records, r.policy = none → r.error = none

/-- What the backend is asked about one of the listed groups. -/
def visit (e : Environment σ) (group : JitGroup) (s : σ) : Visit where
  group := group
  provisioned := (e.provisioner.directoryGroup group s).1
  reconciled := (e.policy.group? group).map fun node =>
    (node, (e.provisioner.reconcile node (e.provisioner.directoryGroup group s).2).1)

theorem reconcileGroup_fst (e : Environment σ) (group : JitGroup) (s : σ) :
    (e.reconcileGroup group s).1 =
      ⟨group, (e.visit group s).provisioned,
        (e.policy.group? group).map Policy.GroupNode.group, (e.visit group s).error?⟩ := by
  rw [reconcileGroup, visit, Visit.error?]
  cases e.policy.group? group with
  | none => rfl
  | some node =>
    rcases h : e.provisioner.reconcile node (e.provisioner.directoryGroup group s).2 with
      ⟨_ | _, s'⟩ <;> simp [h, AccessError.ofAnswer?]

theorem reconcileGroup_recording (e : Environment σ) (group : JitGroup) (s : σ)
    (log : List BackendCall) :
    e.recording.reconcileGroup group (s, log) =
      ((e.reconcileGroup group s).1, (e.reconcileGroup group s).2,
        log ++ (e.visit group s).calls) := by
  have hpolicy : e.recording.policy = e.policy := rfl
  rw [reconcileGroup, reconcileGroup, hpolicy, visit, Visit.calls]
  cases e.policy.group? group with
  | none => rfl
  | some node =>
    rcases h : e.provisioner.reconcile node (e.provisioner.directoryGroup group s).2 with
      ⟨_ | _, s'⟩ <;> simp [recording, recorded, h]

namespace IsSwept

variable {e : Environment σ} {listed : List JitGroup} {visits : List Visit}
  {records : List ComplianceRecord}

theorem nil : e.IsSwept [] [] [] := by
  constructor <;> simp

theorem cons (group : JitGroup) (s : σ) (hrest : e.IsSwept listed visits records) :
    e.IsSwept (group :: listed) (e.visit group s :: visits)
      ((e.reconcileGroup group s).1 :: records) := by
  rw [reconcileGroup_fst]
  constructor
  case groups => rw [List.map_cons, hrest.groups]
  case visited =>
    rw [List.map_cons, hrest.visited]
    rfl
  case provisioned => rw [List.map_cons, List.map_cons, hrest.provisioned]
  case policies =>
    refine List.forall_mem_cons.mpr ⟨?_, hrest.policies⟩
    intro p
    rw [Option.map_eq_some_iff]
    simp only [Policy.EnvironmentTree.group?_eq_some_iff, and_assoc]
  case called =>
    rw [List.map_cons, List.map_cons, hrest.called, visit]
    cases e.policy.group? group <;> rfl
  case answered => rw [List.map_cons, List.map_cons, hrest.answered]
  case orphaned =>
    refine List.forall_mem_cons.mpr ⟨?_, hrest.orphaned⟩
    intro hp
    rw [visit, Visit.error?, Option.map_eq_none_iff.mp hp]
    rfl

end IsSwept

theorem reconcileGroups_recording (e : Environment σ) (listed : List JitGroup) (s : σ)
    (log : List BackendCall) :
    ∃ visits, e.IsSwept listed visits (e.reconcileGroups listed s).1 ∧
      e.recording.reconcileGroups listed (s, log) =
        ((e.reconcileGroups listed s).1, (e.reconcileGroups listed s).2,
          log ++ visits.flatMap Visit.calls) := by
  -- Each visit changes the state and makes the log longer, so the statement is about all of them.
  induction listed generalizing s log with
  | nil => exact ⟨[], .nil, by simp [reconcileGroups]⟩
  | cons group listed ih =>
    obtain ⟨visits, hswept, hlog⟩ :=
      ih (e.reconcileGroup group s).2 (log ++ (e.visit group s).calls)
    refine ⟨e.visit group s :: visits, hswept.cons group s, ?_⟩
    rw [reconcileGroups, reconcileGroup_recording, hlog, List.flatMap_cons, List.append_assoc]
    rfl

/-- Only the environment's own list decides who may reconcile it. -/
theorem isAllowed_reconcile_iff {e : Environment σ} {subject : Subject} {now : Instant} :
    e.isAllowed subject .reconcile now = true ↔
      (Policy.Node.environment e.policy).Allows subject now .reconcile := by
  have hpart : ∀ q, Permissions.reconcile.IsPart q ↔ q = .reconcile :=
    fun q => Permissions.isPart_twoPow_iff (i := 5) (by decide)
  rw [isAllowed, Policy.Node.isAllowedAt_iff]
  simp only [hpart, forall_eq, Policy.Node.grants_environment_iff]

/-- What reconciling returns to a subject, and the calls that it makes. The three cases exclude each
other: the environment's own list does not allow it, listing fails, or all listed groups are
swept. -/
inductive IsReconciled (e : Environment σ) (subject : Subject) (now : Instant) (s : σ) :
    Except AccessError (List ComplianceRecord) → List BackendCall → Prop
  | denied (h : ¬ (Policy.Node.environment e.policy).Allows subject now .reconcile)
      (reason : String) : IsReconciled e subject now s (.error (.accessDenied reason)) []
  | unlisted {cause : AccessError}
      (h : (Policy.Node.environment e.policy).Allows subject now .reconcile)
      (hlist : (e.provisioner.provisionedGroups s).1 = .error cause) :
      IsReconciled e subject now s (.error cause) [.list (.error cause)]
  | swept {listed : List JitGroup} {visits : List Visit} {records : List ComplianceRecord}
      (h : (Policy.Node.environment e.policy).Allows subject now .reconcile)
      (hlist : (e.provisioner.provisionedGroups s).1 = .ok listed)
      (hswept : e.IsSwept listed visits records) :
      IsReconciled e subject now s (.ok records)
        (.list (.ok listed) :: visits.flatMap Visit.calls)

theorem reconcile_of_not_isAllowed {e : Environment σ} {subject : Subject} {now : Instant} (s : σ)
    (h : ¬ e.isAllowed subject .reconcile now = true) :
    e.reconcile subject now s = (.error (e.denied subject .reconcile), s) :=
  if_neg h

theorem reconcile_of_error {e : Environment σ} {subject : Subject} {now : Instant} {s s' : σ}
    {cause : AccessError} (h : e.isAllowed subject .reconcile now = true)
    (hlist : e.provisioner.provisionedGroups s = (.error cause, s')) :
    e.reconcile subject now s = (.error cause, s') := by
  rw [reconcile, if_pos h, hlist]

theorem reconcile_of_ok {e : Environment σ} {subject : Subject} {now : Instant} {s s' : σ}
    {listed : List JitGroup} (h : e.isAllowed subject .reconcile now = true)
    (hlist : e.provisioner.provisionedGroups s = (.ok listed, s')) :
    e.reconcile subject now s =
      (.ok (e.reconcileGroups listed s').1, (e.reconcileGroups listed s').2) := by
  rw [reconcile, if_pos h, hlist]

/-- Reconciling is gated by the environment's own list, and sweeps all listed groups in order
whatever fails on the way. -/
theorem reconcile_recording (e : Environment σ) (subject : Subject) (now : Instant) (s : σ) :
    ∃ result s' calls,
      e.reconcile subject now s = (result, s') ∧
      e.recording.reconcile subject now (s, []) = (result, s', calls) ∧
      e.IsReconciled subject now s result calls := by
  by_cases h : e.isAllowed subject .reconcile now = true
  · have hallows := isAllowed_reconcile_iff.mp h
    have h' : e.recording.isAllowed subject .reconcile now = true := h
    obtain ⟨answer, s', hlist⟩ : ∃ answer s', e.provisioner.provisionedGroups s = (answer, s') :=
      ⟨_, _, rfl⟩
    have hlist' : e.recording.provisioner.provisionedGroups (s, []) =
        (answer, s', [.list answer]) := by
      change recorded _ _ _ = _
      rw [recorded, hlist]
      rfl
    cases answer with
    | error cause =>
      refine ⟨.error cause, s', [.list (.error cause)], reconcile_of_error h hlist,
        reconcile_of_error h' hlist', ?_⟩
      exact .unlisted hallows (congrArg Prod.fst hlist)
    | ok listed =>
      obtain ⟨visits, hswept, hlog⟩ := reconcileGroups_recording e listed s' [.list (.ok listed)]
      refine ⟨_, _, .list (.ok listed) :: visits.flatMap Visit.calls, reconcile_of_ok h hlist, ?_,
        .swept hallows (congrArg Prod.fst hlist) hswept⟩
      rw [reconcile_of_ok h' hlist', hlog]
      rfl
  · have h' : ¬ e.recording.isAllowed subject .reconcile now = true := h
    have hdenied : ¬ (Policy.Node.environment e.policy).Allows subject now .reconcile :=
      fun hallows => h (isAllowed_reconcile_iff.mpr hallows)
    exact ⟨_, s, [], reconcile_of_not_isAllowed s h, reconcile_of_not_isAllowed (s, []) h',
      .denied hdenied _⟩

end Environment

end AccessGovernance
