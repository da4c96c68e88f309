import AccessGovernance.Proofs.Policy.Monotonicity

/-! # Decisions as time passes

A subject holds the same principals as long as none of them expires, so until then all decisions
stay the same. When one expires a policy may come to leave open what it decided before, and those
above it decide. Where nothing is denied, that only takes away.
-/

namespace AccessGovernance

open Effect (AtMost)

namespace Subject

variable {s : Subject} {id : PrincipalId} {t t' : Instant}

theorem Holds.of_le (hle : t ≤ t') (h : s.Holds id t') : s.Holds id t := by
  obtain ⟨p, hp, hid, hvalid⟩ := h
  exact ⟨p, hp, hid, fun expiry he => Int.lt_of_le_of_lt hle (hvalid expiry he)⟩

/-- A principal of the subject is valid at the first moment and no longer at the second one. -/
def LosesBetween (s : Subject) (t t' : Instant) : Prop :=
  ∃ p ∈ s.principals, ∃ expiry, p.expiry = some expiry ∧ t < expiry ∧ expiry ≤ t'

instance (s : Subject) (t t' : Instant) : Decidable (s.LosesBetween t t') :=
  inferInstanceAs (Decidable (∃ p ∈ s.principals.toList, ∃ expiry ∈ p.expiry,
    t < expiry ∧ expiry ≤ t'))

theorem Holds.of_not_losesBetween (hnone : ¬ s.LosesBetween t t') (h : s.Holds id t) :
    s.Holds id t' := by
  obtain ⟨p, hp, hid, hvalid⟩ := h
  refine ⟨p, hp, hid, fun expiry he => Int.not_le.mp fun hexpired => ?_⟩
  exact hnone ⟨p, hp, expiry, he, hvalid expiry he, hexpired⟩

theorem idsAt_of_not_losesBetween (hle : t ≤ t') (hnone : ¬ s.LosesBetween t t') :
    s.idsAt t = s.idsAt t' := by
  apply Ascending.eq_of_mem_iff
  intro id
  rw [mem_idsAt_iff, mem_idsAt_iff]
  exact ⟨.of_not_losesBetween hnone, .of_le hle⟩

end Subject

theorem AccessEntry.applies_of_subset {e : AccessEntry} {held held' : PrincipalSet}
    {q : Permissions} (hheld : ∀ id, id ∈ held → id ∈ held') (h : e.applies held q = true) :
    e.applies held' q = true := by
  rw [applies, Bool.and_eq_true, Ascending.contains_iff] at h ⊢
  exact ⟨h.1, hheld _ h.2⟩

/-- Without entries that deny, a list is no stricter to who holds more. -/
theorem AccessList.atMost_decide_of_subset {acl : AccessList} {held held' : PrincipalSet}
    {q : Permissions} (hdeny : ∀ e ∈ acl, e.effect ≠ .deny)
    (hheld : ∀ id, id ∈ held → id ∈ held') :
    AtMost (acl.decide held q) (acl.decide held' q) where
  allow h := by
    obtain ⟨⟨e, he, happ, heff⟩, -⟩ := decide_eq_allow_iff.mp h
    refine decide_eq_allow_iff.mpr ⟨⟨e, he, AccessEntry.applies_of_subset hheld happ, heff⟩, ?_⟩
    exact fun e' he' _ => hdeny e' he'
  deny h := by
    obtain ⟨e, he, -, heff⟩ := decide_eq_deny_iff.mp h
    exact absurd heff (hdeny e he)

namespace Policy

namespace Node

variable {n : Node}

theorem hasEntry_iff {e : AccessEntry} : n.HasEntry e ↔ e ∈ n.header.entries := by
  rw [HasEntry, Header.entries]
  cases n.header.acl <;> simp

theorem atMost_decide_of_subset {held held' : PrincipalSet} {q : Permissions}
    (hdeny : ∀ m ∈ n.ancestry, ∀ e, m.HasEntry e → e.effect ≠ .deny)
    (hheld : ∀ id, id ∈ held → id ∈ held') : AtMost (n.decide held q) (n.decide held' q) := by
  refine atMost_decide (List.forall₂_same.mpr fun m hm => ?_)
  rw [ownDecision_eq, ownDecision_eq]
  refine AccessList.atMost_decide_of_subset (fun e he => ?_) hheld
  exact hdeny m hm e (hasEntry_iff.mpr he)

/-- Nothing changes until a principal of the subject expires. What is lost then is not allowed again
later, unless a policy here or above denies something. -/
theorem isAllowedAt_of_le (n : Node) (subject : Subject) (required : Permissions)
    {t t' : Instant} (hle : t ≤ t') :
    (¬ subject.LosesBetween t t' →
      n.isAllowedAt subject required t = n.isAllowedAt subject required t') ∧
    ((∀ m ∈ n.ancestry, ∀ e, m.HasEntry e → e.effect ≠ .deny) →
      n.isAllowedAt subject required t' = true → n.isAllowedAt subject required t = true) := by
  refine ⟨fun hnone => ?_, fun hdeny => isAllowedAt_of_atMost fun q => ?_⟩
  · rw [isAllowedAt, isAllowedAt, Subject.idsAt_of_not_losesBetween hle hnone]
  · refine atMost_decide_of_subset hdeny fun id hid => ?_
    rw [Subject.mem_idsAt_iff] at hid ⊢
    exact hid.of_le hle

/-- Ann is one of the operators until the moment 10. Once they are denied, she is allowed more when
she is none of them. -/
theorem isAllowedAt_of_le_operators :
    ∃ (ann : Subject) (n denying : Node),
      (¬ ann.LosesBetween 3 9 ∧ n.isAllowedAt ann .view 3 = n.isAllowedAt ann .view 9) ∧
        ann.LosesBetween 9 10 ∧ n.isAllowedAt ann .view 9 = true ∧
          n.isAllowedAt ann .view 10 = false ∧
          (n.isAllowedAt ann .join 10 = true → n.isAllowedAt ann .join 9 = true) ∧
          denying.isAllowedAt ann .view 9 = false ∧ denying.isAllowedAt ann .view 10 = true := by
  let operators : JitGroup := ⟨⟨"prod", by decide +kernel⟩, ⟨"shop", by decide +kernel⟩,
    ⟨"operators", by decide +kernel⟩⟩
  let ann : Subject := .ofUser ⟨⟨"ann@example.com", by decide +kernel⟩⟩ .consumer .project
    [.temporary (.jitGroup operators) 10]
  let header (display : String) (clean : isClean display.toList = true) (e : AccessEntry) :
      Header := ⟨⟨display, clean⟩, "", some [e], ⟨[], .nil⟩, ⟨[], .nil⟩⟩
  let shop (environment system : AccessEntry) : Node :=
    .system ⟨⟨header "prod" (by decide) environment, .empty⟩,
      ⟨header "shop" (by decide) system, .empty⟩⟩
  let n := shop ⟨.userClass .external, .allow, .join⟩ ⟨.jitGroup operators, .allow, .view⟩
  let denying := shop ⟨.userClass .external, .allow, .view⟩ ⟨.jitGroup operators, .deny, .view⟩
  have hkeeps : ¬ ann.LosesBetween 3 9 := by decide +kernel
  have hdeny : ∀ m ∈ n.ancestry, ∀ e ∈ m.header.entries, e.effect ≠ .deny := by decide +kernel
  refine ⟨ann, n, denying,
    ⟨hkeeps, (isAllowedAt_of_le n ann .view (by decide : (3 : Instant) ≤ 9)).1 hkeeps⟩,
    by decide +kernel, by decide +kernel, by decide +kernel, ?_, by decide +kernel,
    by decide +kernel⟩
  apply (isAllowedAt_of_le n ann .join (by decide : (9 : Instant) ≤ 10)).2
  exact fun m hm e he => hdeny m hm e (hasEntry_iff.mp he)

end Node

end Policy

end AccessGovernance
