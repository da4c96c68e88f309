import AccessGovernance.Proofs.Reconciliation.Trace

/-! # What a sweep reports

A sweep goes through environments one after the other, each in the state that the one before it left
behind, whatever became of that one. A report counts the listed groups without a policy and the
calls that failed. Every record is counted as one thing, so that no group is counted twice.
-/

namespace AccessGovernance

namespace ComplianceRecord

theorem count_true_eq_one (r : ComplianceRecord) :
    [r.isCompliant, r.isOrphaned, r.isErrored].count true = 1 := by
  rw [isCompliant, isOrphaned, isErrored]
  cases r.policy <;> cases r.error <;> rfl

theorem countP_add_countP_add_countP (records : List ComplianceRecord) :
    records.countP isCompliant + records.countP isOrphaned + records.countP isErrored =
      records.length := by
  induction records with
  | nil => rfl
  | cons r records ih =>
    have hone := r.count_true_eq_one
    simp only [List.count_cons, List.count_nil, beq_true] at hone
    simp only [List.countP_cons, List.length_cons]
    omega

end ComplianceRecord

namespace ComplianceSummary

/-- The summary is that of so many groups, with so many that have no policy and so many that could
not be reconciled among them. -/
structure Tells (summary : ComplianceSummary) (total orphaned errored : Nat) : Prop where
  nothingToDo_iff : summary = .nothingToDo ↔ total = 0
  compliant_iff : ∀ n, summary = .compliant n ↔
    n = total ∧ 0 < total ∧ orphaned = 0 ∧ errored = 0
  needsAttention_iff : ∀ o e, summary = .needsAttention o e ↔
    o = orphaned ∧ e = errored ∧ 0 < orphaned + errored

theorem tells_nothingToDo : nothingToDo.Tells 0 0 0 := by
  constructor <;> simp

theorem tells_compliant {total : Nat} (h : 0 < total) : (compliant total).Tells total 0 0 := by
  constructor
  · simp only [reduceCtorEq, false_iff]
    omega
  · intro n
    rw [compliant.injEq]
    omega
  · simp

theorem tells_needsAttention {total orphaned errored : Nat} (htotal : 0 < total)
    (h : 0 < orphaned + errored) :
    (needsAttention orphaned errored).Tells total orphaned errored := by
  constructor
  · simp only [reduceCtorEq, false_iff]
    omega
  · intro n
    simp only [reduceCtorEq, false_iff]
    omega
  · intro o e
    rw [needsAttention.injEq]
    omega

theorem tells_ofRecords (records : List ComplianceRecord) :
    (ofRecords records).Tells records.length (records.countP ComplianceRecord.isOrphaned)
      (records.countP ComplianceRecord.isErrored) := by
  by_cases hnil : records = []
  · subst hnil
    exact tells_nothingToDo
  · have hlength : 0 < records.length := List.length_pos_iff.mpr hnil
    rw [ofRecords, if_neg hnil]
    by_cases hzero : records.countP ComplianceRecord.isOrphaned +
        records.countP ComplianceRecord.isErrored = 0
    · obtain ⟨horphaned, herrored⟩ := Nat.add_eq_zero_iff.mp hzero
      rw [if_pos hzero, horphaned, herrored]
      exact tells_compliant hlength
    · rw [if_neg hzero]
      exact tells_needsAttention hlength (Nat.pos_of_ne_zero hzero)

end ComplianceSummary

namespace Environment

variable {σ : Type}

namespace IsSwept

variable {e : Environment σ} {listed : List JitGroup} {visits : List Visit}
  {records : List ComplianceRecord}

theorem countP_isOrphaned (h : e.IsSwept listed visits records) :
    records.countP ComplianceRecord.isOrphaned =
      listed.countP fun id => id ∉ e.policy.groupNodes.map Policy.GroupNode.id := by
  rw [← h.groups, List.countP_map]
  apply List.countP_congr
  intro r hr
  have hpolicy := h.policies r hr
  have horphaned := h.orphaned r hr
  cases hp : r.policy with
  | none =>
    have hundeclared : ∀ g ∈ e.policy.groupNodes, ¬ g.id = r.group := by
      intro g hg hid
      have hsome := (hpolicy g.group).mpr ⟨g, hg, hid, rfl⟩
      rw [hp] at hsome
      cases hsome
    simpa [ComplianceRecord.isOrphaned, hp, horphaned hp] using hundeclared
  | some p =>
    obtain ⟨g, hg, hid, _⟩ := (hpolicy p).mp hp
    have hdeclared : ∃ g ∈ e.policy.groupNodes, g.id = r.group := ⟨g, hg, hid⟩
    simpa [ComplianceRecord.isOrphaned, hp] using hdeclared

theorem countP_isErrored (h : e.IsSwept listed visits records) :
    records.countP ComplianceRecord.isErrored =
      (visits.filterMap Visit.reconciled).countP fun c => !c.2.isOk := by
  have hvisit : ∀ v : Visit,
      v.error?.isSome = (v.reconciled.map fun c => !c.2.isOk).getD false := by
    rintro ⟨_, _, _ | ⟨_, _ | _⟩⟩ <;> rfl
  calc
    records.countP ComplianceRecord.isErrored
        = (records.map ComplianceRecord.error).countP Option.isSome := by
          rw [List.countP_map]
          rfl
    _ = (visits.map Visit.error?).countP Option.isSome := by rw [h.answered]
    _ = visits.countP fun v => (v.reconciled.map fun c => !c.2.isOk).getD false := by
          rw [List.countP_map]
          exact congrArg (List.countP · visits) (funext hvisit)
    _ = (visits.filterMap Visit.reconciled).countP fun c => !c.2.isOk := by
          rw [List.countP_filterMap]

end IsSwept

/-- What a sweep reports of an environment that it finds in a state, and the calls that it makes
there: the error for which the environment was not reconciled, or the counts of listed groups that
no policy declares and of calls that failed. -/
inductive IsReported (e : Environment σ) (subject : Subject) (now : Instant) (s : σ) :
    Except AccessError ComplianceSummary → List BackendCall → Prop
  | failed {cause : AccessError} {calls : List BackendCall}
      (h : e.IsReconciled subject now s (.error cause) calls) :
      IsReported e subject now s (.error cause) calls
  | summarized {listed : List JitGroup} {visits : List Visit} {summary : ComplianceSummary}
      (h : (Policy.Node.environment e.policy).Allows subject now .reconcile)
      (hlist : (e.provisioner.provisionedGroups s).1 = .ok listed)
      (hvisited : visits.map Visit.group = listed)
      (hcalled : visits.map (fun v => v.reconciled.map Prod.fst) = listed.map e.policy.group?)
      (hsummary : summary.Tells listed.length
        (listed.countP fun id => id ∉ e.policy.groupNodes.map Policy.GroupNode.id)
        ((visits.filterMap Visit.reconciled).countP fun c => !c.2.isOk)) :
      IsReported e subject now s (.ok summary)
        (.list (.ok listed) :: visits.flatMap Visit.calls)

variable {e : Environment σ} {subject : Subject} {now : Instant} {s : σ}

theorem IsReconciled.isReported {result : Except AccessError (List ComplianceRecord)}
    {calls : List BackendCall} (h : e.IsReconciled subject now s result calls) :
    e.IsReported subject now s (result.map ComplianceSummary.ofRecords) calls := by
  cases h with
  | denied hdenied reason => exact .failed (.denied hdenied reason)
  | unlisted hallows hlist => exact .failed (.unlisted hallows hlist)
  | @swept listed visits records hallows hlist hswept =>
    have htells := ComplianceSummary.tells_ofRecords records
    have hlength : records.length = listed.length := by
      rw [← hswept.groups, List.length_map]
    rw [hswept.countP_isOrphaned, hswept.countP_isErrored, hlength] at htells
    exact .summarized hallows hlist hswept.visited hswept.called htells

/-- Reconciling with backends that already have calls written down only adds its own. -/
theorem exists_isReconciled (e : Environment σ) (subject : Subject) (now : Instant) (s : σ)
    (log : List BackendCall) :
    ∃ result s' calls,
      e.reconcile subject now s = (result, s') ∧
      e.recording.reconcile subject now (s, log) = (result, s', log ++ calls) ∧
      e.IsReconciled subject now s result calls := by
  by_cases h : e.isAllowed subject .reconcile now = true
  · have hallows := isAllowed_reconcile_iff.mp h
    have h' : e.recording.isAllowed subject .reconcile now = true := h
    have hlist' : e.recording.provisioner.provisionedGroups (s, log) =
        ((e.provisioner.provisionedGroups s).1, (e.provisioner.provisionedGroups s).2,
          log ++ [.list (e.provisioner.provisionedGroups s).1]) := rfl
    rcases hlist : e.provisioner.provisionedGroups s with ⟨cause | listed, s'⟩
    · rw [hlist] at hlist'
      exact ⟨_, _, _, reconcile_of_error h hlist, reconcile_of_error h' hlist',
        .unlisted hallows (congrArg Prod.fst hlist)⟩
    · rw [hlist] at hlist'
      obtain ⟨visits, hswept, hlog⟩ :=
        reconcileGroups_recording e listed s' (log ++ [.list (.ok listed)])
      refine ⟨_, _, _, reconcile_of_ok h hlist, ?_,
        .swept hallows (congrArg Prod.fst hlist) hswept⟩
      rw [reconcile_of_ok h' hlist', hlog, List.append_assoc, List.singleton_append]
  · have h' : ¬ e.recording.isAllowed subject .reconcile now = true := h
    have hdenied : ¬ (Policy.Node.environment e.policy).Allows subject now .reconcile :=
      fun hallows => h (isAllowed_reconcile_iff.mpr hallows)
    refine ⟨_, s, [], reconcile_of_not_isAllowed s h, ?_, .denied hdenied _⟩
    rw [reconcile_of_not_isAllowed (s, log) h', List.append_nil]
    rfl

end Environment

variable {σ : Type} {subject : Subject} {now : Instant}

/-- Environments are reconciled one after the other, each in the state that the one before it left
behind. -/
inductive IsSweep (subject : Subject) (now : Instant) :
    List (Environment σ) → σ → List ReconciliationRun → List BackendCall → σ → Prop
  | nil (s : σ) : IsSweep subject now [] s [] [] s
  | cons {e : Environment σ} {es : List (Environment σ)} {s s₁ s₂ : σ}
      {result : Except AccessError (List ComplianceRecord)}
      {summary : Except AccessError ComplianceSummary}
      {runs : List ReconciliationRun} {calls more : List BackendCall}
      (hrun : e.reconcile subject now s = (result, s₁))
      (herror : ∀ cause, summary = .error cause ↔ result = .error cause)
      (hreported : e.IsReported subject now s summary calls)
      (hrest : IsSweep subject now es s₁ runs more s₂) :
      IsSweep subject now (e :: es) s (⟨e.name, summary⟩ :: runs) (calls ++ more) s₂

theorem IsSweep.map_environment {es : List (Environment σ)} {s s' : σ}
    {runs : List ReconciliationRun} {calls : List BackendCall}
    (h : IsSweep subject now es s runs calls s') :
    runs.map ReconciliationRun.environment = es.map Environment.name := by
  induction h with
  | nil => rfl
  | cons _ _ _ _ ih => rw [List.map_cons, List.map_cons, ih]

theorem sweep_cons {e : Environment σ} {s s₁ : σ}
    {result : Except AccessError (List ComplianceRecord)} (es : List (Environment σ))
    (h : e.reconcile subject now s = (result, s₁)) :
    sweep subject now (e :: es) s =
      (⟨e.name, result.map ComplianceSummary.ofRecords⟩ :: (sweep subject now es s₁).1,
        (sweep subject now es s₁).2) := by
  rw [sweep, h]

theorem sweep_append (xs ys : List (Environment σ)) (s : σ) :
    sweep subject now (xs ++ ys) s =
      ((sweep subject now xs s).1 ++ (sweep subject now ys (sweep subject now xs s).2).1,
        (sweep subject now ys (sweep subject now xs s).2).2) := by
  induction xs generalizing s with
  | nil => rfl
  | cons e xs ih =>
    rw [List.cons_append, sweep_cons (xs ++ ys) rfl, sweep_cons xs rfl, ih]
    rfl

theorem exists_isSweep (subject : Subject) (now : Instant) (es : List (Environment σ)) (s : σ)
    (log : List BackendCall) :
    ∃ runs calls s',
      sweep subject now es s = (runs, s') ∧
      sweep subject now (es.map Environment.recording) (s, log) = (runs, s', log ++ calls) ∧
      IsSweep subject now es s runs calls s' := by
  -- What one environment leaves behind, state and calls, is where the next one starts.
  induction es generalizing s log with
  | nil => exact ⟨[], [], s, rfl, by rw [List.append_nil]; rfl, .nil s⟩
  | cons e es ih =>
    obtain ⟨result, s₁, calls, hrun, hlog, hreconciled⟩ :=
      e.exists_isReconciled subject now s log
    obtain ⟨runs, more, s₂, hruns, hlogs, hsweep⟩ := ih s₁ (log ++ calls)
    have herror : ∀ cause, result.map ComplianceSummary.ofRecords = .error cause ↔
        result = .error cause := by
      intro cause
      cases result <;> simp [Except.map]
    refine ⟨_, calls ++ more, s₂, ?_, ?_, .cons hrun herror hreconciled.isReported hsweep⟩
    · rw [sweep_cons es hrun, hruns]
    · rw [List.map_cons, sweep_cons (es.map Environment.recording) hlog, hlogs,
        List.append_assoc]
      rfl

/-- A sweep is made of runs in the order of the environments, with exact counts, and sweeps compose:
whatever becomes of some environments, the others are reconciled as they would be on their own in
the state that they find. -/
theorem sweep_composition (subject : Subject) (now : Instant) :
    (∀ (es : List (Environment σ)) (s : σ), ∃ runs calls s',
      sweep subject now es s = (runs, s') ∧
      sweep subject now (es.map Environment.recording) (s, []) = (runs, s', calls) ∧
      runs.map ReconciliationRun.environment = es.map Environment.name ∧
      IsSweep subject now es s runs calls s') ∧
    (∀ (xs ys : List (Environment σ)) (s : σ),
      sweep subject now (xs ++ ys) s =
        ((sweep subject now xs s).1 ++ (sweep subject now ys (sweep subject now xs s).2).1,
          (sweep subject now ys (sweep subject now xs s).2).2)) ∧
    (∀ r : ComplianceRecord, [r.isCompliant, r.isOrphaned, r.isErrored].count true = 1) ∧
    ∀ records : List ComplianceRecord,
      records.countP ComplianceRecord.isCompliant + records.countP ComplianceRecord.isOrphaned +
        records.countP ComplianceRecord.isErrored = records.length ∧
      (ComplianceSummary.ofRecords records).Tells records.length
        (records.countP ComplianceRecord.isOrphaned)
        (records.countP ComplianceRecord.isErrored) := by
  refine ⟨?_, sweep_append, ComplianceRecord.count_true_eq_one, ?_⟩
  · intro es s
    obtain ⟨runs, calls, s', hruns, hlog, hsweep⟩ := exists_isSweep subject now es s []
    exact ⟨runs, calls, s', hruns, hlog, hsweep.map_environment, hsweep⟩
  · intro records
    exact ⟨ComplianceRecord.countP_add_countP_add_countP records,
      ComplianceSummary.tells_ofRecords records⟩

end AccessGovernance
