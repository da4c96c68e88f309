import AccessGovernance.Proofs.Policy.Authorization
import AccessGovernance.Proofs.Resolution

/-! # Memberships that expired

What a subject may do at a moment depends on the principals that are valid then. So of what the
directory knows about a user's just-in-time groups only the memberships matter that last longer; one
that expired, is gone or never had an expiry leaves nothing behind.
-/

namespace AccessGovernance

theorem Subject.idsAt_ofUser_congr {user : User} {directory internal : Directory}
    {given given' : List Principal} {t : Instant}
    (h : ∀ p : Principal, (∀ expiry, p.expiry = some expiry → t < expiry) →
      (p ∈ given ↔ p ∈ given')) :
    (ofUser user directory internal given).idsAt t =
      (ofUser user directory internal given').idsAt t := by
  apply Ascending.eq_of_mem_iff
  intro id
  rw [mem_idsAt_ofUser_iff, mem_idsAt_ofUser_iff]
  refine or_congr_right (exists_congr fun p => ?_)
  constructor
  · rintro ⟨hp, hgivable, hid, hvalid⟩
    exact ⟨(h p hvalid).mp hp, hgivable, hid, hvalid⟩
  · rintro ⟨hp, hgivable, hid, hvalid⟩
    exact ⟨(h p hvalid).mpr hp, hgivable, hid, hvalid⟩

theorem Policy.Node.isAllowedAt_congr {n : Node} {subject subject' : Subject}
    {required : Permissions} {t : Instant} (h : subject.idsAt t = subject'.idsAt t) :
    n.isAllowedAt subject required t = n.isAllowedAt subject' required t := by
  rw [isAllowedAt, isAllowedAt, h]

/-! ## Memberships that last -/

/-- One of these look-ups finds a membership in the just-in-time group whose first role to expire
expires at that moment. -/
def GroupNaming.Finds (naming : GroupNaming) (assigned : List Completion) (g : JitGroup)
    (expiry : Instant) : Prop :=
  ∃ c ∈ assigned, naming.AccountsFor c (.held (.temporary (.jitGroup g) expiry))

theorem GroupNaming.AccountsFor.isJit_of_temporary {naming : GroupNaming} {c : Completion}
    {id : PrincipalId} {expiry : Instant}
    (h : naming.AccountsFor c (.held (.temporary id expiry))) : c.isJit naming = true := by
  cases h with
  | expiring hg => exact isJit_of_eq_some hg

theorem Completion.accountsFor_of_principal? {naming : GroupNaming} {c : Completion} {p : Principal}
    (h : c.principal? naming = some p) :
    ∃ g expiry, p = .temporary (.jitGroup g) expiry ∧ naming.AccountsFor c (.held p) := by
  unfold principal? at h
  split at h
  · rename_i m ho
    obtain ⟨t, ht, h⟩ := Option.bind_eq_some_iff.mp h
    obtain ⟨g, hg, rfl⟩ := Option.map_eq_some_iff.mp h
    exact ⟨g, t, rfl, .expiring hg ho (Membership.expiry_eq_some_iff.mp ht)⟩
  · cases h

theorem GroupNaming.mem_jitPrincipals_iff_finds {naming : GroupNaming} {assigned : List Completion}
    {p : Principal} :
    p ∈ naming.jitPrincipals assigned ↔
      ∃ g expiry, p = .temporary (.jitGroup g) expiry ∧ naming.Finds assigned g expiry := by
  rw [mem_jitPrincipals_iff]
  constructor
  · rintro ⟨c, hc, -, h⟩
    obtain ⟨g, expiry, rfl, haccount⟩ := c.accountsFor_of_principal? h
    exact ⟨g, expiry, rfl, c, hc, haccount⟩
  · rintro ⟨g, expiry, rfl, c, hc, haccount⟩
    have hjit := haccount.isJit_of_temporary
    exact ⟨c, hc, hjit, haccount.principal?_eq hjit⟩

theorem GroupNaming.finds_iff_mem {naming : GroupNaming} {assigned : List Completion} {g : JitGroup}
    {expiry : Instant} :
    naming.Finds assigned g expiry ↔
      .temporary (.jitGroup g) expiry ∈ naming.jitPrincipals assigned := by
  rw [mem_jitPrincipals_iff_finds]
  constructor
  · intro h
    exact ⟨g, expiry, rfl, h⟩
  · rintro ⟨_, _, heq, h⟩
    cases heq
    exact h

namespace Resolver

variable {r : Resolver} {user : User} {directory : Directory} {σ σ' : Type}
  {client : GroupsClient σ} {client' : GroupsClient σ'} {scheduler scheduler' : Tasks.Scheduler}
  {assigned assigned' : List Completion} {s₁ s₂ : σ} {s₁' s₂' : σ'} {t : Instant}

def given (r : Resolver) (assigned : List Completion) : List Principal :=
  r.plainGroups (assigned.map Completion.membership) ++ r.naming.jitPrincipals assigned

theorem subject_resolutionOf :
    (r.resolutionOf user directory assigned).subject =
      .ofUser user directory r.internalDirectory (r.given assigned) :=
  rfl

theorem mem_given_iff {p : Principal} :
    p ∈ r.given assigned ↔ p ∈ r.plainGroups (assigned.map Completion.membership) ∨
      ∃ g expiry, p = .temporary (.jitGroup g) expiry ∧ r.naming.Finds assigned g expiry := by
  rw [given, List.mem_append, GroupNaming.mem_jitPrincipals_iff_finds]

theorem mem_plainGroups_map_iff {p : Principal} :
    p ∈ r.plainGroups (assigned.map Completion.membership) ↔
      ∃ g, r.naming.jitGroup? g = none ∧ (∃ c ∈ assigned, c.group = g) ∧
        p = .permanent (.group g) := by
  rw [mem_plainGroups_iff]
  constructor
  · rintro ⟨m, hm, hplain, hp⟩
    obtain ⟨c, hc, rfl⟩ := List.mem_map.mp hm
    exact ⟨c.group, hplain, ⟨c, hc, rfl⟩, hp⟩
  · rintro ⟨_, hplain, ⟨c, hc, rfl⟩, hp⟩
    exact ⟨c.membership, List.mem_map_of_mem hc, hplain, hp⟩

theorem idsAt_given_congr
    (hplain : ∀ g, r.naming.jitGroup? g = none →
      ((∃ c ∈ assigned, c.group = g) ↔ ∃ c ∈ assigned', c.group = g))
    (hlasting : ∀ g expiry, t < expiry →
      (r.naming.Finds assigned g expiry ↔ r.naming.Finds assigned' g expiry)) :
    (Subject.ofUser user directory r.internalDirectory (r.given assigned)).idsAt t =
      (Subject.ofUser user directory r.internalDirectory (r.given assigned')).idsAt t := by
  apply Subject.idsAt_ofUser_congr
  intro p hvalid
  rw [mem_given_iff, mem_given_iff, mem_plainGroups_map_iff, mem_plainGroups_map_iff]
  refine or_congr (exists_congr fun g => and_congr_right fun hg => ?_) ?_
  · rw [hplain g hg]
  · refine exists_congr fun g => exists_congr fun expiry => and_congr_right ?_
    rintro rfl
    exact hlasting g expiry (hvalid expiry rfl)

theorem idsAt_given_of_expired
    (hexpired : ∀ g expiry, r.naming.Finds assigned g expiry → expiry ≤ t) :
    (Subject.ofUser user directory r.internalDirectory (r.given assigned)).idsAt t =
      (Subject.ofUser user directory r.internalDirectory
        (r.plainGroups (assigned.map Completion.membership))).idsAt t := by
  apply Subject.idsAt_ofUser_congr
  intro p hvalid
  rw [mem_given_iff, or_iff_left]
  rintro ⟨g, expiry, rfl, hfinds⟩
  exact absurd (hvalid expiry rfl) (Int.not_lt.mpr (hexpired g expiry hfinds))

/-- Two runs for a user that list the same plain groups and find the same memberships that last
longer than a moment lead to the same decisions from that moment on. If none lasts longer, these are
the decisions for the plain groups alone. -/
theorem isAllowedAt_resolve_of_lasting (hpermits : r.HasPermits)
    (hrun : client.Completes scheduler r.naming user assigned s₁ s₂)
    (hrun' : client'.Completes scheduler' r.naming user assigned' s₁' s₂')
    (hplain : ∀ g, r.naming.jitGroup? g = none →
      ((∃ c ∈ assigned, c.group = g) ↔ ∃ c ∈ assigned', c.group = g))
    (hlasting : ∀ g expiry, t < expiry →
      (r.naming.Finds assigned g expiry ↔ r.naming.Finds assigned' g expiry)) :
    ∃ a b : Resolution,
      r.resolve client scheduler user directory s₁ = some (.ok a, s₂) ∧
      r.resolve client' scheduler' user directory s₁' = some (.ok b, s₂') ∧
      (∀ (n : Policy.Node) (required : Permissions) (t' : Instant), t ≤ t' →
        n.isAllowedAt a.subject required t' = n.isAllowedAt b.subject required t') ∧
      ((∀ g expiry, r.naming.Finds assigned g expiry → expiry ≤ t) →
        ∀ (n : Policy.Node) (required : Permissions) (t' : Instant), t ≤ t' →
          n.isAllowedAt a.subject required t' =
            n.isAllowedAt (.ofUser user directory r.internalDirectory
              (r.plainGroups (assigned.map Completion.membership))) required t') := by
  obtain ⟨diagnostics, hresolve, -⟩ := resolve_of_completes directory hpermits hrun
  obtain ⟨diagnostics', hresolve', -⟩ := resolve_of_completes directory hpermits hrun'
  refine ⟨_, _, hresolve, hresolve', ?_, ?_⟩
  · intro n required t' ht
    apply Policy.Node.isAllowedAt_congr
    rw [subject_resolutionOf, subject_resolutionOf]
    -- what lasts longer than the later moment lasts longer than the earlier one
    exact idsAt_given_congr hplain fun g expiry hexpiry =>
      hlasting g expiry (Int.lt_of_le_of_lt ht hexpiry)
  · intro hexpired n required t' ht
    apply Policy.Node.isAllowedAt_congr
    rw [subject_resolutionOf]
    exact idsAt_given_of_expired fun g expiry hfinds =>
      Int.le_trans (hexpired g expiry hfinds) ht

namespace Sample

/-- The membership in `mail` is found, after it has expired at the third moment. -/
def outcomesLater : List Completion :=
  [⟨mail, .found ⟨[⟨"OWNER", some 9⟩, ⟨"MEMBER", some 3⟩]⟩⟩, ⟨web, .found ⟨[⟨"MEMBER", some 7⟩]⟩⟩,
    ⟨staff, .died "not looked up"⟩]

theorem ends_outcomesLater :
    ∀ c ∈ outcomesLater, c.isJit resolver.naming = true → c.outcome.Ends := by
  have hplain : Completion.isJit resolver.naming ⟨staff, .died "not looked up"⟩ = false := by
    decide +kernel
  simp only [outcomesLater, List.forall_mem_cons]
  refine ⟨fun _ => .found _, fun _ => .found _, ?_, List.forall_mem_nil _⟩
  rw [hplain]
  exact nofun

theorem gives_outcomesLater :
    (answering (.ok (outcomesLater.map Completion.membership)) outcomesLater).Gives
      (outcomesLater.filter (Completion.isJit resolver.naming)) () := by
  apply GroupsClient.gives_of_forall
  simp [answering, outcomesLater, web, staff, mail]

end Sample

theorem isAllowedAt_resolve_of_expired_mail :
    ∃ (a b : Resolution),
      Sample.resolver.resolve
        (Sample.answering (.ok (Sample.outcomes.map Completion.membership)) Sample.outcomes)
        Tasks.inOrder Sample.ann .consumer () = some (.ok a, ()) ∧
      Sample.resolver.resolve
        (Sample.answering (.ok (Sample.outcomesLater.map Completion.membership))
          Sample.outcomesLater)
        Tasks.inReverse Sample.ann .consumer () = some (.ok b, ()) ∧
      (∀ (n : Policy.Node) (required : Permissions) (t' : Instant), 5 ≤ t' →
        n.isAllowedAt a.subject required t' = n.isAllowedAt b.subject required t') ∧
      ((∀ g expiry, Sample.resolver.naming.Finds Sample.outcomes g expiry → expiry ≤ 5) →
        ∀ (n : Policy.Node) (required : Permissions) (t' : Instant), 5 ≤ t' →
          n.isAllowedAt a.subject required t' =
            n.isAllowedAt (.ofUser Sample.ann .consumer Sample.resolver.internalDirectory
              (Sample.resolver.plainGroups (Sample.outcomes.map Completion.membership)))
              required t') := by
  have hpermits : Sample.resolver.HasPermits := Nat.le_of_ble_eq_true rfl
  have hlist : (Sample.answering (.ok (Sample.outcomes.map Completion.membership))
      Sample.outcomes).memberships Sample.ann () =
        (.ok (Sample.outcomes.map Completion.membership), ()) := rfl
  obtain ⟨_, ⟨⟩, -, -, hrun⟩ :=
    completes_of_gives Tasks.inOrder hlist Sample.gives_outcomes Sample.ends_outcomes
  have hlist' : (Sample.answering (.ok (Sample.outcomesLater.map Completion.membership))
      Sample.outcomesLater).memberships Sample.ann () =
        (.ok (Sample.outcomesLater.map Completion.membership), ()) := rfl
  obtain ⟨_, ⟨⟩, -, -, hrun'⟩ :=
    completes_of_gives Tasks.inReverse hlist' Sample.gives_outcomesLater Sample.ends_outcomesLater
  refine isAllowedAt_resolve_of_lasting hpermits hrun hrun' ?_ ?_
  · intro g _
    simp only [Sample.outcomes, Sample.outcomesLater, List.mem_cons, List.not_mem_nil, or_false,
      exists_eq_or_imp, exists_eq_left, Completion.group]
    tauto
  · intro g expiry hexpiry
    have hlater : ∀ p ∈ Sample.resolver.naming.jitPrincipals Sample.outcomes,
        5 < p.expiry.getD 0 → p ∈ Sample.resolver.naming.jitPrincipals Sample.outcomesLater := by
      decide +kernel
    have hearlier : ∀ p ∈ Sample.resolver.naming.jitPrincipals Sample.outcomesLater,
        5 < p.expiry.getD 0 → p ∈ Sample.resolver.naming.jitPrincipals Sample.outcomes := by
      decide +kernel
    rw [GroupNaming.finds_iff_mem, GroupNaming.finds_iff_mem]
    exact ⟨fun h => hlater _ h hexpiry, fun h => hearlier _ h hexpiry⟩

end Resolver

end AccessGovernance
