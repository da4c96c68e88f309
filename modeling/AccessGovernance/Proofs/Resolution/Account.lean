import AccessGovernance.Proofs.Resolution.Lookup
import AccessGovernance.Resolution
import Mathlib.Data.List.Forall2
import Mathlib.Logic.ExistsUnique

/-! # What becomes of a membership

Every listed membership is accounted for. A group that is not named like a just-in-time group is
held for good. One that is named so is held until its membership expires, or a diagnostic says why
it is not.
-/

namespace AccessGovernance

/-- The moment is the earliest at which a role expires. -/
structure Membership.ExpiresAt (m : Membership) (t : Instant) : Prop where
  attained : ∃ role ∈ m.roles, role.expiry = some t
  earliest : ∀ role ∈ m.roles, ∀ u, role.expiry = some u → t ≤ u

theorem Membership.expiry_eq_some_iff {m : Membership} {t : Instant} :
    m.expiry = some t ↔ m.ExpiresAt t := by
  rw [expiry, List.min?_eq_some_iff, List.mem_filterMap]
  constructor
  · rintro ⟨hattained, hearliest⟩
    refine ⟨hattained, ?_⟩
    intro role hrole u hu
    exact hearliest u (List.mem_filterMap.mpr ⟨role, hrole, hu⟩)
  · rintro ⟨hattained, hearliest⟩
    refine ⟨hattained, ?_⟩
    intro u hu
    obtain ⟨role, hrole, hu⟩ := List.mem_filterMap.mp hu
    exact hearliest role hrole u hu

theorem Membership.expiry_eq_none_iff {m : Membership} :
    m.expiry = none ↔ ∀ role ∈ m.roles, role.expiry = none := by
  rw [expiry, List.min?_eq_none_iff, List.filterMap_eq_nil_iff]

inductive Account
  | held (principal : Principal)
  | reported (diagnostic : Diagnostic)

namespace Account

def principal? : Account → Option Principal
  | held p => some p
  | reported _ => none

def diagnostic? : Account → Option Diagnostic
  | held _ => none
  | reported d => some d

theorem eq_of_principal?_of_diagnostic? {a b : Account} (hp : a.principal? = b.principal?)
    (hd : a.diagnostic? = b.diagnostic?) : a = b := by
  cases a <;> cases b <;> simp_all [principal?, diagnostic?]

end Account

/-- Whether a membership has to be looked up, because its group is named like a just-in-time
group. -/
def Completion.isJit (naming : GroupNaming) (c : Completion) : Bool :=
  naming.isJitGroup c.group

namespace GroupNaming

/-- What a listed membership leads to, given what a look-up of it finds. If its group has no name of
a just-in-time group, what a look-up would find does not matter. -/
inductive AccountsFor (naming : GroupNaming) (c : Completion) : Account → Prop
  | plain (hg : naming.jitGroup? c.group = none) :
      AccountsFor naming c (.held (.permanent (.group c.group)))
  | expiring {m : Membership} {g : JitGroup} {t : Instant}
      (hg : naming.jitGroup? c.group = some g) (ho : c.outcome = .found m) (ht : m.ExpiresAt t) :
      AccountsFor naming c (.held (.temporary (.jitGroup g) t))
  | missingExpiry {m : Membership} {g : JitGroup} (hg : naming.jitGroup? c.group = some g)
      (ho : c.outcome = .found m) (hm : ∀ role ∈ m.roles, role.expiry = none) :
      AccountsFor naming c (.reported (.missingExpiry c.group))
  | vanished {what : String} {g : JitGroup} (hg : naming.jitGroup? c.group = some g)
      (ho : c.outcome = .failed (.notFound what)) :
      AccountsFor naming c (.reported (.membershipVanished c.group))

variable {naming : GroupNaming} {c : Completion} {a : Account}

theorem isJit_eq_false_iff : c.isJit naming = false ↔ naming.jitGroup? c.group = none := by
  rw [Completion.isJit, isJitGroup, Option.isSome_eq_false_iff, Option.isNone_iff_eq_none]

theorem isJit_of_eq_some {g : JitGroup} (h : naming.jitGroup? c.group = some g) :
    c.isJit naming = true := by
  rw [Completion.isJit, isJitGroup, h]
  rfl

namespace AccountsFor

theorem eq_of_plain (h : naming.AccountsFor c a) (hplain : c.isJit naming = false) :
    a = .held (.permanent (.group c.group)) := by
  rw [isJit_eq_false_iff] at hplain
  cases h with
  | plain => rfl
  | expiring hg | missingExpiry hg | vanished hg => simp [hplain] at hg

theorem principal?_eq (h : naming.AccountsFor c a) (hjit : c.isJit naming = true) :
    c.principal? naming = a.principal? := by
  cases h with
  | plain hg => simp [isJit_eq_false_iff.mpr hg] at hjit
  | expiring hg ho ht =>
    simp [Completion.principal?, ho, hg, Membership.expiry_eq_some_iff.mpr ht, Account.principal?]
  | missingExpiry hg ho hm =>
    simp [Completion.principal?, ho, Membership.expiry_eq_none_iff.mpr hm, Account.principal?]
  | vanished hg ho => simp [Completion.principal?, ho, Account.principal?]

theorem diagnostic?_eq (h : naming.AccountsFor c a) (hjit : c.isJit naming = true) :
    c.diagnostic? = a.diagnostic? := by
  cases h with
  | plain hg => simp [isJit_eq_false_iff.mpr hg] at hjit
  | expiring hg ho ht =>
    simp [Completion.diagnostic?, ho, Membership.expiry_eq_some_iff.mpr ht, Account.diagnostic?]
  | missingExpiry hg ho hm =>
    simp [Completion.diagnostic?, ho, Membership.expiry_eq_none_iff.mpr hm, Account.diagnostic?]
  | vanished hg ho => simp [Completion.diagnostic?, ho, Account.diagnostic?]

/-- A group that is held as it is named is not named like a just-in-time group. -/
theorem jitGroup?_eq_none_of_group {p : Principal} {g : DirectoryGroup}
    (h : naming.AccountsFor c (.held p)) (hp : p.id = .group g) : naming.jitGroup? g = none := by
  cases h with
  | plain hg =>
    cases hp
    exact hg
  | expiring => cases hp

end AccountsFor

theorem existsUnique_accountsFor (hends : c.isJit naming = true → c.outcome.Ends) :
    ∃! a, naming.AccountsFor c a := by
  cases hjit : naming.jitGroup? c.group with
  | none =>
    refine ⟨_, .plain hjit, ?_⟩
    intro b hb
    exact hb.eq_of_plain (isJit_eq_false_iff.mpr hjit)
  | some g =>
    have hisJit := isJit_of_eq_some hjit
    -- The program's own functions fix the account, so that there is one is all that is to be shown.
    obtain ⟨a, ha⟩ : ∃ a, naming.AccountsFor c a := by
      have hends := hends hisJit
      generalize ho : c.outcome = o at hends
      cases hends with
      | found m =>
        cases hm : m.expiry with
        | none => exact ⟨_, .missingExpiry hjit ho (Membership.expiry_eq_none_iff.mp hm)⟩
        | some t => exact ⟨_, .expiring hjit ho (Membership.expiry_eq_some_iff.mp hm)⟩
      | vanished what => exact ⟨_, .vanished hjit ho⟩
    refine ⟨a, ha, ?_⟩
    intro b hb
    exact Account.eq_of_principal?_of_diagnostic?
      ((hb.principal?_eq hisJit).symm.trans (ha.principal?_eq hisJit))
      ((hb.diagnostic?_eq hisJit).symm.trans (ha.diagnostic?_eq hisJit))

theorem exists_accounts {assigned : List Completion}
    (hends : ∀ c ∈ assigned, c.isJit naming = true → c.outcome.Ends) :
    ∃ accounts, List.Forall₂ naming.AccountsFor assigned accounts := by
  induction assigned with
  | nil => exact ⟨[], .nil⟩
  | cons c rest ih =>
    obtain ⟨hc, hrest⟩ := List.forall_mem_cons.mp hends
    obtain ⟨a, ha, _⟩ := existsUnique_accountsFor hc
    obtain ⟨accounts, haccounts⟩ := ih hrest
    exact ⟨a :: accounts, .cons ha haccounts⟩

/-- What look-ups found can be put in the order of the list. -/
theorem exists_assigned {listed : List ListedMembership} {asked : List Completion}
    (h : (asked.map Completion.membership).Perm
      (listed.filter fun m => naming.isJitGroup m.group)) :
    ∃ assigned : List Completion, assigned.map Completion.membership = listed ∧
      asked.Perm (assigned.filter (Completion.isJit naming)) := by
  induction listed generalizing asked with
  | nil =>
    obtain rfl := List.map_eq_nil_iff.mp (List.perm_nil.mp h)
    exact ⟨[], rfl, .nil⟩
  | cons m listed ih =>
    cases hjit : naming.isJitGroup m.group with
    | false =>
      rw [List.filter_cons_of_neg (by simp [hjit])] at h
      obtain ⟨assigned, hassigned, hperm⟩ := ih h
      refine ⟨⟨m, .failed (.notFound m.id)⟩ :: assigned, congrArg (m :: ·) hassigned, ?_⟩
      rwa [List.filter_cons_of_neg (by simp [Completion.isJit, Completion.group, hjit])]
    | true =>
      rw [List.filter_cons, if_pos hjit] at h
      obtain ⟨c, hc, rfl⟩ := List.mem_map.mp (h.mem_iff.mpr List.mem_cons_self)
      obtain ⟨before, after, rfl⟩ := List.append_of_mem hc
      have hmiddle : (before ++ c :: after).Perm (c :: (before ++ after)) := List.perm_middle
      obtain ⟨assigned, hassigned, hperm⟩ := ih ((hmiddle.map _).symm.trans h).cons_inv
      refine ⟨c :: assigned, congrArg (c.membership :: ·) hassigned, ?_⟩
      have hisJit : c.isJit naming = true := hjit
      rw [List.filter_cons_of_pos hisJit]
      exact hmiddle.trans (hperm.cons c)

/-- The just-in-time groups that look-ups find. -/
def jitPrincipals (naming : GroupNaming) (assigned : List Completion) : List Principal :=
  (assigned.filter (Completion.isJit naming)).filterMap (Completion.principal? naming)

theorem mem_jitPrincipals_iff {assigned : List Completion} {p : Principal} :
    p ∈ naming.jitPrincipals assigned ↔
      ∃ c ∈ assigned, c.isJit naming = true ∧ c.principal? naming = some p := by
  simp only [jitPrincipals, List.mem_filterMap, List.mem_filter, and_assoc]

variable {assigned : List Completion} {accounts : List Account}

/-- What is held follows from the memberships that need no look-up and from the look-ups. -/
theorem mem_accounts_iff (h : List.Forall₂ naming.AccountsFor assigned accounts) {p : Principal} :
    .held p ∈ accounts ↔
      (∃ c ∈ assigned, c.isJit naming = false ∧ p = .permanent (.group c.group)) ∨
        p ∈ naming.jitPrincipals assigned := by
  rw [mem_jitPrincipals_iff]
  induction h with
  | nil => simp
  | @cons c a assigned accounts h _ ih =>
    rw [List.mem_cons, ih]
    cases hjit : c.isJit naming with
    | false =>
      obtain rfl := h.eq_of_plain hjit
      simp [hjit, or_assoc]
    | true =>
      have hp := h.principal?_eq hjit
      cases a <;> simp_all [Account.principal?, or_left_comm, eq_comm (a := p)]

theorem jitGroup?_eq_none_of_held (h : List.Forall₂ naming.AccountsFor assigned accounts)
    {p : Principal} (hp : .held p ∈ accounts) {g : DirectoryGroup} (hg : p.id = .group g) :
    naming.jitGroup? g = none := by
  induction h with
  | nil => cases hp
  | cons h _ ih =>
    rcases List.mem_cons.mp hp with rfl | hp
    · exact h.jitGroup?_eq_none_of_group hg
    · exact ih hp

theorem filterMap_diagnostic?_eq (h : List.Forall₂ naming.AccountsFor assigned accounts) :
    (assigned.filter (Completion.isJit naming)).filterMap Completion.diagnostic? =
      accounts.filterMap Account.diagnostic? := by
  induction h with
  | nil => rfl
  | @cons c a assigned accounts h _ ih =>
    cases hjit : c.isJit naming with
    | false =>
      obtain rfl := h.eq_of_plain hjit
      rw [List.filter_cons_of_neg (by simp [hjit]), ih]
      rfl
    | true =>
      rw [List.filter_cons_of_pos hjit, List.filterMap_cons, List.filterMap_cons,
        h.diagnostic?_eq hjit, ih]

end GroupNaming

end AccessGovernance
