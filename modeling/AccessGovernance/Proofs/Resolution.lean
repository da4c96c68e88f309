import AccessGovernance.Proofs.Identity.Subject
import AccessGovernance.Proofs.Resolution.Account

/-! # What becomes of memberships

Every listed membership is accounted for: by a principal that the subject holds, or by a diagnostic.
The order in which look-ups ask the directory and are joined decides only the order of the
diagnostics. A look-up that fails takes all just-in-time groups away, and no other group.
-/

namespace AccessGovernance

/-- The directory lists memberships of the user, and the look-ups of those with the name of a
just-in-time group are all joined. They find, in some order, what is assigned to them here. -/
def GroupsClient.Completes {σ : Type} (client : GroupsClient σ) (scheduler : Tasks.Scheduler)
    (naming : GroupNaming) (user : User) (assigned : List Completion) (s s' : σ) : Prop :=
  ∃ s₁ joined, client.memberships user s = (.ok (assigned.map Completion.membership), s₁) ∧
    client.joinAll scheduler
        (.spawn ((assigned.filter (Completion.isJit naming)).map Completion.membership)) s₁ =
      (.ok joined, s') ∧
    joined.Perm (assigned.filter (Completion.isJit naming))

theorem GroupNaming.map_filter_isJit (naming : GroupNaming) (assigned : List Completion) :
    (assigned.filter (Completion.isJit naming)).map Completion.membership =
      (assigned.map Completion.membership).filter fun m => naming.isJitGroup m.group := by
  rw [List.filter_map]
  rfl

theorem GroupsClient.Completes.ends {σ : Type} {client : GroupsClient σ}
    {scheduler : Tasks.Scheduler} {naming : GroupNaming} {user : User} {assigned : List Completion}
    {s s' : σ} (h : client.Completes scheduler naming user assigned s s') :
    ∀ c ∈ assigned, c.isJit naming = true → c.outcome.Ends := by
  obtain ⟨s₁, joined, -, hjoin, hperm⟩ := h
  intro c hc hjit
  exact GroupsClient.ends_of_joinAll hjoin c (hperm.mem_iff.mpr (List.mem_filter.mpr ⟨hc, hjit⟩))

namespace Resolver

variable {σ : Type} {r : Resolver} {client : GroupsClient σ} {scheduler : Tasks.Scheduler}
  {user : User} {directory : Directory} {listed : List ListedMembership}
  {assigned joined : List Completion} {s s₁ s' : σ}

/-! ## Runs -/

def HasPermits (r : Resolver) : Prop :=
  r.maxConcurrency ≤ maxPermits

theorem lookUpAll_eq (h : r.HasPermits) (client : GroupsClient σ) (scheduler : Tasks.Scheduler)
    (ms : List ListedMembership) (s : σ) :
    r.lookUpAll client scheduler ms s = some (client.joinAll scheduler (.spawn ms) s) := by
  rw [lookUpAll]
  split
  · rename_i hnil
    rw [hnil, GroupsClient.joinAll, dif_pos (Tasks.size_eq_zero_iff.mpr ⟨rfl, rfl⟩)]
  · exact if_pos h

theorem resolve_of_ok (scheduler : Tasks.Scheduler) (directory : Directory) (h : r.HasPermits)
    (hlist : client.memberships user s = (.ok listed, s₁)) :
    r.resolve client scheduler user directory s =
      some (.ok (r.resolution user directory listed
          (client.joinAll scheduler (.spawn (r.lookups listed)) s₁).1),
        (client.joinAll scheduler (.spawn (r.lookups listed)) s₁).2) := by
  rw [resolve, hlist]
  simp only [lookUpAll_eq h, Option.map_some]

theorem resolve_of_error {cause : AccessError}
    (hlist : client.memberships user s = (.error cause, s')) :
    r.resolve client scheduler user directory s =
      some (.error (listingError user cause), s') := by
  rw [resolve, hlist]

/-- Resolving breaks off exactly if there is something to look up, and too many look-ups are to run
at once. -/
theorem resolve_eq_none_iff :
    r.resolve client scheduler user directory s = none ↔
      ∃ listed s₁, client.memberships user s = (.ok listed, s₁) ∧
        (∃ m ∈ listed, r.naming.isJitGroup m.group = true) ∧ ¬ r.HasPermits := by
  rcases hlist : client.memberships user s with ⟨cause | listed, s₁⟩
  · rw [resolve_of_error hlist]
    simp
  · have hnil : r.lookups listed = [] ↔ ¬ ∃ m ∈ listed, r.naming.isJitGroup m.group = true := by
      simp [lookups]
    rw [resolve, hlist]
    simp only [Option.map_eq_none_iff, lookUpAll]
    by_cases hlookups : r.lookups listed = []
    · simp [hlookups, hnil.mp hlookups]
    · simp [hlookups, not_not.mp (mt hnil.mpr hlookups), HasPermits]

/-! ## Accounts -/

/-- The resolution of a user whose look-ups find what is assigned to the listed memberships, and are
joined in the order of the list. -/
def resolutionOf (r : Resolver) (user : User) (directory : Directory) (assigned : List Completion) :
    Resolution :=
  r.resolution user directory (assigned.map Completion.membership)
    (.ok (assigned.filter (Completion.isJit r.naming)))

theorem resolve_of_completes (directory : Directory) (h : r.HasPermits)
    (hrun : client.Completes scheduler r.naming user assigned s s') :
    ∃ diagnostics, r.resolve client scheduler user directory s =
        some (.ok ⟨(r.resolutionOf user directory assigned).subject, diagnostics⟩, s') ∧
      diagnostics.Perm (r.resolutionOf user directory assigned).diagnostics := by
  obtain ⟨s₁, joined, hlist, hjoin, hperm⟩ := hrun
  rw [r.naming.map_filter_isJit] at hjoin
  have hsubject : (r.resolution user directory (assigned.map Completion.membership)
      (.ok joined)).subject = (r.resolutionOf user directory assigned).subject := by
    apply Subject.ofUser_congr
    intro p
    rw [List.mem_append, List.mem_append]
    exact or_congr_right (hperm.filterMap _).mem_iff
  refine ⟨(r.resolution user directory (assigned.map Completion.membership)
    (.ok joined)).diagnostics, ?_, hperm.filterMap _⟩
  rw [resolve_of_ok scheduler directory h hlist, lookups, hjoin, ← hsubject]

theorem mem_plainGroups_iff {p : Principal} :
    p ∈ r.plainGroups listed ↔
      ∃ m ∈ listed, r.naming.jitGroup? m.group = none ∧ p = .permanent (.group m.group) := by
  rw [plainGroups, List.mem_map]
  constructor
  · rintro ⟨m, hm, rfl⟩
    obtain ⟨hm, hplain⟩ := List.mem_filter.mp hm
    refine ⟨m, hm, ?_, rfl⟩
    simpa [GroupNaming.isJitGroup] using hplain
  · rintro ⟨m, hm, hplain, rfl⟩
    refine ⟨m, List.mem_filter.mpr ⟨hm, ?_⟩, rfl⟩
    simp [GroupNaming.isJitGroup, hplain]

/-- What became of the listed memberships, given what look-ups find for those that are looked up. -/
structure IsAccounted (r : Resolver) (assigned : List Completion) (subject : Subject)
    (accounts : List Account) : Prop where
  unique : ∀ c ∈ assigned, ∃! a, r.naming.AccountsFor c a
  accounted : List.Forall₂ r.naming.AccountsFor assigned accounts
  /-- The subject holds the groups that it is accounted to hold, and no other. -/
  held : ∀ p : Principal, p.id.kind = .group ∨ p.id.kind = .jitGroup →
    (p ∈ subject.principals ↔ .held p ∈ accounts)
  /-- No group that is named like a just-in-time group is held as a plain one. -/
  plain : ∀ p ∈ subject.principals, ∀ g, p.id = .group g → r.naming.jitGroup? g = none

theorem exists_isAccounted (user : User) (directory : Directory)
    (hends : ∀ c ∈ assigned, c.isJit r.naming = true → c.outcome.Ends) :
    ∃ accounts,
      r.IsAccounted assigned (r.resolutionOf user directory assigned).subject accounts ∧
      (r.resolutionOf user directory assigned).diagnostics =
        accounts.filterMap Account.diagnostic? := by
  obtain ⟨accounts, haccounts⟩ := GroupNaming.exists_accounts hends
  have hheld : ∀ p : Principal, p.id.kind = .group ∨ p.id.kind = .jitGroup →
      (p ∈ (r.resolutionOf user directory assigned).subject.principals ↔ .held p ∈ accounts) := by
    intro p hp
    have hgivable : Subject.isGivable p = true := by
      rw [Subject.isGivable_iff]
      rcases hp with hp | hp <;> simp [hp]
    rw [resolutionOf, resolution, Subject.mem_principals_of_isGivable_iff hgivable, List.mem_append,
      GroupNaming.mem_accounts_iff haccounts, mem_plainGroups_iff]
    simp only [List.mem_map, exists_exists_and_eq_and, GroupNaming.isJit_eq_false_iff]
    rfl
  refine ⟨accounts, ⟨fun c hc => GroupNaming.existsUnique_accountsFor (hends c hc), haccounts,
    hheld, ?_⟩, GroupNaming.filterMap_diagnostic?_eq haccounts⟩
  intro p hp g hg
  have hkind : p.id.kind = .group := by rw [hg]; rfl
  exact GroupNaming.jitGroup?_eq_none_of_held haccounts ((hheld p (.inl hkind)).mp hp) hg

theorem completes_of_gives {naming : GroupNaming} (scheduler : Tasks.Scheduler)
    (hlist : client.memberships user s = (.ok (assigned.map Completion.membership), s₁))
    (hgives : client.Gives (assigned.filter (Completion.isJit naming)) s₁)
    (hends : ∀ c ∈ assigned, c.isJit naming = true → c.outcome.Ends) :
    ∃ asked s', client.Asks asked s₁ s' ∧
      asked.Perm (assigned.filter (Completion.isJit naming)) ∧
      client.Completes scheduler naming user assigned s s' := by
  have hends' : ∀ c ∈ assigned.filter (Completion.isJit naming), c.outcome.Ends := by
    intro c hc
    exact hends c (List.mem_filter.mp hc).1 (List.mem_filter.mp hc).2
  obtain ⟨asked, joined, s', hasks, hasked, hjoined, hjoin⟩ :=
    GroupsClient.joinAll_of_gives hgives hends' scheduler
  exact ⟨asked, s', hasks, hasked, s₁, joined, hlist, hjoin, hjoined.trans hasked⟩

theorem completes_of_ends {naming : GroupNaming} (scheduler : Tasks.Scheduler)
    (hlist : client.memberships user s = (.ok listed, s₁))
    (hends : ∀ m ∈ listed, naming.isJitGroup m.group = true →
      ∀ s, (client.membership m.id s).1.Ends) :
    ∃ assigned asked s', assigned.map Completion.membership = listed ∧
      client.Asks asked s₁ s' ∧ asked.Perm (assigned.filter (Completion.isJit naming)) ∧
      client.Completes scheduler naming user assigned s s' := by
  have hends' : ∀ m ∈ listed.filter fun m => naming.isJitGroup m.group,
      ∀ s, (client.membership m.id s).1.Ends := by
    intro m hm
    exact hends m (List.mem_filter.mp hm).1 (List.mem_filter.mp hm).2
  obtain ⟨asked, joined, s', hasks, hasked, hjoined, hjoin⟩ :=
    GroupsClient.joinAll_of_ends hends' scheduler s₁
  obtain ⟨assigned, rfl, hperm⟩ := GroupNaming.exists_assigned hasked
  rw [← naming.map_filter_isJit] at hjoin
  exact ⟨assigned, asked, s', rfl, hasks, hperm, s₁, joined, hlist, hjoin, hjoined.trans hperm⟩

/-- Resolving a user asks the directory once for each membership that has to be looked up and for no
other one, and it leads to this subject with the diagnostics of these accounts in some order. -/
def Resolves (r : Resolver) (client : GroupsClient σ) (scheduler : Tasks.Scheduler) (user : User)
    (directory : Directory) (assigned : List Completion) (s s₁ : σ) (subject : Subject)
    (accounts : List Account) : Prop :=
  ∃ asked s' diagnostics, client.Asks asked s₁ s' ∧
    asked.Perm (assigned.filter (Completion.isJit r.naming)) ∧
    r.resolve client scheduler user directory s = some (.ok ⟨subject, diagnostics⟩, s') ∧
    diagnostics.Perm (accounts.filterMap Account.diagnostic?)

theorem Resolves.of_completes {accounts : List Account} {asked : List Completion}
    (h : r.HasPermits) (hasks : client.Asks asked s₁ s')
    (hasked : asked.Perm (assigned.filter (Completion.isJit r.naming)))
    (hrun : client.Completes scheduler r.naming user assigned s s')
    (hdiagnostics : (r.resolutionOf user directory assigned).diagnostics =
      accounts.filterMap Account.diagnostic?) :
    r.Resolves client scheduler user directory assigned s s₁
      (r.resolutionOf user directory assigned).subject accounts := by
  obtain ⟨diagnostics, hresolve, hperm⟩ := resolve_of_completes directory h hrun
  exact ⟨asked, s', diagnostics, hasks, hasked, hresolve, hdiagnostics ▸ hperm⟩

/-- Whatever look-ups find, and in whatever order they run and are joined, the user is resolved to
one subject, and every listed membership is accounted for. If what is found changes with the order,
this holds for what each run finds. -/
theorem resolve_isAccounted (r : Resolver) (hpermits : r.HasPermits) (user : User)
    (directory : Directory) :
    (∀ assigned : List Completion,
      (∀ c ∈ assigned, c.isJit r.naming = true → c.outcome.Ends) →
        ∃ subject accounts, r.IsAccounted assigned subject accounts ∧
          ∀ (σ : Type) (client : GroupsClient σ) (scheduler : Tasks.Scheduler) (s s₁ : σ),
            client.memberships user s = (.ok (assigned.map Completion.membership), s₁) →
            client.Gives (assigned.filter (Completion.isJit r.naming)) s₁ →
              r.Resolves client scheduler user directory assigned s s₁ subject accounts) ∧
    ∀ (σ : Type) (client : GroupsClient σ) (scheduler : Tasks.Scheduler) (s s₁ : σ)
      (listed : List ListedMembership), client.memberships user s = (.ok listed, s₁) →
      (∀ m ∈ listed, r.naming.isJitGroup m.group = true →
        ∀ s, (client.membership m.id s).1.Ends) →
        ∃ assigned subject accounts, assigned.map Completion.membership = listed ∧
          r.IsAccounted assigned subject accounts ∧
          r.Resolves client scheduler user directory assigned s s₁ subject accounts := by
  constructor
  · intro assigned hends
    obtain ⟨accounts, haccounts, hdiagnostics⟩ := exists_isAccounted user directory hends
    refine ⟨_, accounts, haccounts, ?_⟩
    intro σ client scheduler s s₁ hlist hgives
    obtain ⟨asked, s', hasks, hasked, hrun⟩ := completes_of_gives scheduler hlist hgives hends
    exact .of_completes hpermits hasks hasked hrun hdiagnostics
  · intro σ client scheduler s s₁ listed hlist hends
    obtain ⟨assigned, asked, s', hassigned, hasks, hasked, hrun⟩ :=
      completes_of_ends scheduler hlist hends
    obtain ⟨accounts, haccounts, hdiagnostics⟩ :=
      exists_isAccounted user directory hrun.ends
    exact ⟨assigned, _, accounts, hassigned, haccounts,
      .of_completes hpermits hasks hasked hrun hdiagnostics⟩

namespace Sample

def web : ListedMembership :=
  ⟨⟨⟨"jit.prod.shop.web@example.com", by decide +kernel⟩⟩, "memberships/1"⟩

def staff : ListedMembership :=
  ⟨⟨⟨"staff@example.com", by decide +kernel⟩⟩, "memberships/2"⟩

def mail : ListedMembership :=
  ⟨⟨⟨"jit.prod.shop.mail@example.com", by decide +kernel⟩⟩, "memberships/3"⟩

def ann : User :=
  ⟨⟨"ann@example.com", by decide +kernel⟩⟩

def resolver : Resolver :=
  .make ⟨"example.com"⟩ .consumer 2

/-- The membership in `mail` is gone, and the one in `web` is listed twice. -/
def outcomes : List Completion :=
  [⟨web, .found ⟨[⟨"MEMBER", some 7⟩, ⟨"OWNER", none⟩]⟩⟩, ⟨staff, .died "not looked up"⟩,
    ⟨mail, .failed (.notFound "gone")⟩, ⟨web, .found ⟨[⟨"MEMBER", some 7⟩, ⟨"OWNER", none⟩]⟩⟩]

/-- A directory that always gives the same answers. -/
def answering (listing : Except AccessError (List ListedMembership)) (found : List Completion) :
    GroupsClient Unit :=
  ⟨fun _ s => (listing, s), fun id s =>
    (((found.find? fun c => c.membership.id = id).map Completion.outcome).getD
      (.failed (.notFound id)), s)⟩

/-- A directory that knows a membership when it is asked for the first time only. -/
def forgetting (listed : List ListedMembership) : GroupsClient Nat :=
  ⟨fun _ n => (.ok listed, n), fun id n =>
    (if n = 0 then .found ⟨[⟨"MEMBER", some 7⟩]⟩ else .failed (.notFound id), n + 1)⟩

theorem ends_outcomes : ∀ c ∈ outcomes, c.isJit resolver.naming = true → c.outcome.Ends := by
  have hplain : Completion.isJit resolver.naming ⟨staff, .died "not looked up"⟩ = false := by
    decide +kernel
  simp only [outcomes, List.forall_mem_cons]
  refine ⟨fun _ => .found _, ?_, fun _ => .vanished _, fun _ => .found _, List.forall_mem_nil _⟩
  rw [hplain]
  exact nofun

theorem gives_outcomes :
    (answering (.ok (outcomes.map Completion.membership)) outcomes).Gives
      (outcomes.filter (Completion.isJit resolver.naming)) () := by
  apply GroupsClient.gives_of_forall
  simp [answering, outcomes, web, staff, mail]

end Sample

theorem resolve_isAccounted_inReverse :
    (∃ subject accounts, Sample.resolver.IsAccounted Sample.outcomes subject accounts ∧
      Sample.resolver.Resolves
        (Sample.answering (.ok (Sample.outcomes.map Completion.membership)) Sample.outcomes)
        Tasks.inReverse Sample.ann .consumer Sample.outcomes () () subject accounts) ∧
    ∃ assigned subject accounts,
      assigned.map Completion.membership = [Sample.web, Sample.staff, Sample.web] ∧
      Sample.resolver.IsAccounted assigned subject accounts ∧
      Sample.resolver.Resolves (Sample.forgetting [Sample.web, Sample.staff, Sample.web])
        Tasks.inReverse Sample.ann .consumer assigned 0 0 subject accounts := by
  have hpermits : Sample.resolver.HasPermits := Nat.le_of_ble_eq_true rfl
  obtain ⟨hconstant, hrun⟩ := resolve_isAccounted Sample.resolver hpermits Sample.ann .consumer
  constructor
  · obtain ⟨subject, accounts, haccounts, hresolves⟩ :=
      hconstant Sample.outcomes Sample.ends_outcomes
    exact ⟨subject, accounts, haccounts,
      hresolves Unit _ Tasks.inReverse () () rfl Sample.gives_outcomes⟩
  · refine hrun Nat (Sample.forgetting _) Tasks.inReverse 0 0 _ rfl ?_
    intro m _ _ n
    cases n with
    | zero => exact .found _
    | succ n => exact .vanished _

/-! ## Failures -/

/-- The subject has no just-in-time group, and every other group that is listed. -/
structure HasPlainGroups (r : Resolver) (listed : List ListedMembership) (subject : Subject) :
    Prop where
  jit : ∀ p ∈ subject.principals, p.id.kind ≠ .jitGroup
  group : ∀ p : Principal, p.id.kind = .group →
    (p ∈ subject.principals ↔
      ∃ m ∈ listed, r.naming.jitGroup? m.group = none ∧ p = .permanent (.group m.group))

theorem hasPlainGroups_ofUser :
    r.HasPlainGroups listed
      (.ofUser user directory r.internalDirectory (r.plainGroups listed)) := by
  constructor
  · intro p hp hkind
    have hgivable : Subject.isGivable p = true := Subject.isGivable_iff.mpr (.inr (.inr hkind))
    rw [Subject.mem_principals_of_isGivable_iff hgivable, mem_plainGroups_iff] at hp
    obtain ⟨m, _, _, rfl⟩ := hp
    cases hkind
  · intro p hkind
    have hgivable : Subject.isGivable p = true := Subject.isGivable_iff.mpr (.inl hkind)
    rw [Subject.mem_principals_of_isGivable_iff hgivable, mem_plainGroups_iff]

/-- If a look-up fails, all just-in-time groups are lost, and nothing else is. One does if the look-up
of a listed membership always fails, or if one fails of those that are found in whatever order the
directory is asked. If the listing fails, nothing is looked up. -/
theorem resolve_of_failure (r : Resolver) (user : User) (directory : Directory) {σ : Type}
    (client : GroupsClient σ) (scheduler : Tasks.Scheduler) (s : σ) :
    (r.HasPermits → ∀ listed s₁, client.memberships user s = (.ok listed, s₁) →
      ∃ asked s', client.Asks asked s₁ s' ∧
        (asked.map Completion.membership).Subperm
          (listed.filter fun m => r.naming.isJitGroup m.group) ∧
        ((∃ m ∈ listed, r.naming.isJitGroup m.group = true ∧ client.Fails m) →
          ∃ c ∈ asked, ∃ message, c.outcome.FailsWith message) ∧
        (∀ assigned : List Completion, assigned.map Completion.membership = listed →
          client.Gives (assigned.filter (Completion.isJit r.naming)) s₁ →
          (∃ c ∈ assigned, c.isJit r.naming = true ∧ ∃ message, c.outcome.FailsWith message) →
            ∃ c ∈ asked, ∃ message, c.outcome.FailsWith message) ∧
        ((∃ c ∈ asked, ∃ message, c.outcome.FailsWith message) →
          ∃ subject, subject = .ofUser user directory r.internalDirectory (r.plainGroups listed) ∧
            r.HasPlainGroups listed subject ∧
            ∃ c ∈ asked, ∃ message, c.outcome.FailsWith message ∧
              r.resolve client scheduler user directory s =
                some (.ok ⟨subject, [.jitResolutionFailed message]⟩, s'))) ∧
    (∀ what s', client.memberships user s = (.error (.notFound what), s') →
      r.resolve client scheduler user directory s =
        some (.error (.accessDenied ("resolving group memberships failed because the user `" ++
          user.text ++ "` does not exist")), s')) ∧
    (∀ cause s', client.memberships user s = (.error cause, s') →
      (∀ what, cause ≠ .notFound what) →
        r.resolve client scheduler user directory s = some (.error cause, s')) := by
  refine ⟨?_, ?_, ?_⟩
  · intro hpermits listed s₁ hlist
    obtain ⟨asked, hasks, hout⟩ := client.exists_asks scheduler (.spawn (r.lookups listed)) s₁
    have hresolve := resolve_of_ok scheduler directory hpermits hlist
    generalize client.joinAll scheduler (.spawn (r.lookups listed)) s₁ = run at hasks hout hresolve
    obtain ⟨result, s'⟩ := run
    refine ⟨asked, s', hasks, hout.subperm, ?_, ?_, ?_⟩
    · rintro ⟨m, hm, hjit, hfails⟩
      exact hfails.exists_failsWith (List.mem_filter.mpr ⟨hm, hjit⟩) hasks hout
    · rintro assigned rfl hgives ⟨c, hc, hjit, message, hfails⟩
      rw [lookups, ← r.naming.map_filter_isJit] at hout
      exact hgives.exists_failsWith (List.mem_filter.mpr ⟨hc, hjit⟩) hfails hasks hout
    · intro hfails
      obtain ⟨c, hc, cause, hcause, rfl⟩ := hout.eq_error_of_failsWith hfails
      refine ⟨_, rfl, hasPlainGroups_ofUser, c, hc, cause.message, hcause, ?_⟩
      rw [hresolve, resolution, JitMemberships.ofJoined, List.append_nil]
  · intro what s' hlist
    exact resolve_of_error hlist
  · intro cause s' hlist hcause
    rw [resolve_of_error hlist]
    cases cause with
    | notFound what => exact absurd rfl (hcause what)
    | _ => rfl

def Sample.broken : List Completion :=
  [⟨web, .found ⟨[⟨"MEMBER", some 7⟩]⟩⟩, ⟨staff, .died "not looked up"⟩, ⟨mail, .died "panic"⟩]

theorem resolve_of_broken_off :
    (∃ asked s', (Sample.answering (.ok (Sample.broken.map Completion.membership))
        Sample.broken).Asks asked () s' ∧
      ∃ subject, subject = .ofUser Sample.ann .consumer .consumer
          (Sample.resolver.plainGroups (Sample.broken.map Completion.membership)) ∧
        Sample.resolver.HasPlainGroups (Sample.broken.map Completion.membership) subject ∧
        ∃ c ∈ asked, ∃ message, c.outcome.FailsWith message ∧
          Sample.resolver.resolve
            (Sample.answering (.ok (Sample.broken.map Completion.membership)) Sample.broken)
            Tasks.inReverse Sample.ann .consumer () =
              some (.ok ⟨subject, [.jitResolutionFailed message]⟩, s')) ∧
    (∃ reason, Sample.resolver.resolve (Sample.answering (.error (.notFound "ann")) [])
      Tasks.inOrder Sample.ann .consumer () = some (.error (.accessDenied reason), ())) ∧
    Sample.resolver.resolve (Sample.answering (.error (.backend "closed")) []) Tasks.inOrder
      Sample.ann .consumer () = some (.error (.backend "closed"), ()) := by
  refine ⟨?_, ?_, ?_⟩
  · have hpermits : Sample.resolver.HasPermits := Nat.le_of_ble_eq_true rfl
    have hdied : ∀ s, ((Sample.answering (.ok (Sample.broken.map Completion.membership))
        Sample.broken).membership Sample.mail.id s).1 = .died "panic" := by
      simp [Sample.answering, Sample.broken, Sample.web, Sample.staff, Sample.mail]
    have hjit : Sample.resolver.naming.isJitGroup Sample.mail.group = true := by decide +kernel
    obtain ⟨asked, s', hasks, -, hasked, -, hresolve⟩ :=
      (resolve_of_failure Sample.resolver Sample.ann .consumer (Sample.answering _ Sample.broken)
        Tasks.inReverse ()).1 hpermits _ () rfl
    refine ⟨asked, s', hasks, hresolve (hasked ⟨Sample.mail, ?_, hjit, fun s => ?_⟩)⟩
    · simp [Sample.broken]
    · rw [hdied]
      exact ⟨_, .died "panic"⟩
  · exact ⟨_, (resolve_of_failure Sample.resolver Sample.ann .consumer _ _ ()).2.1 "ann" () rfl⟩
  · refine (resolve_of_failure Sample.resolver Sample.ann .consumer _ _ ()).2.2 _ () rfl ?_
    intro what hcause
    cases hcause

end Resolver

end AccessGovernance
