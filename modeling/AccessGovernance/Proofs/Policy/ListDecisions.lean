import AccessGovernance.Policy.AccessControl

/-! # What one list decides

A list decides by those of its entries that name one of the principals and contain all of the
permission: it denies if one of them denies, and else allows if one of them allows. So it does not
matter in which order the entries stand and how often one is repeated, and of lists that are joined
the strictest decides.
-/

namespace AccessGovernance

theorem Permissions.contains_iff {p q : Permissions} :
    p.contains q = true ↔ ∀ i, q.bits.getLsbD i = true → p.bits.getLsbD i = true := by
  rw [contains, decide_eq_true_iff]
  constructor
  · intro h i hi
    rw [← h, BitVec.getLsbD_and, Bool.and_eq_true] at hi
    exact hi.1
  · intro h
    apply BitVec.eq_of_getLsbD_eq
    intro i _
    rw [BitVec.getLsbD_and]
    cases hq : q.bits.getLsbD i with
    | false => simp
    | true => simp [h i hq]

namespace Effect

/-- Of two decisions the stricter one: denying outweighs allowing, and either outweighs none. -/
def strictest : Option Effect → Option Effect → Option Effect
  | some .deny, _ => some .deny
  | some .allow, some .deny => some .deny
  | some .allow, _ => some .allow
  | none, d => d

variable {d d' : Option Effect}

theorem strictest_eq_deny_iff :
    strictest d d' = some .deny ↔ d = some .deny ∨ d' = some .deny := by
  rcases d with _ | _ | _ <;> rcases d' with _ | _ | _ <;> decide

theorem strictest_eq_allow_iff :
    strictest d d' = some .allow ↔
      (d = some .allow ∨ d' = some .allow) ∧ d ≠ some .deny ∧ d' ≠ some .deny := by
  rcases d with _ | _ | _ <;> rcases d' with _ | _ | _ <;> decide

theorem decision_eq_none_iff : d = none ↔ d ≠ some .deny ∧ d ≠ some .allow := by
  rcases d with _ | _ | _ <;> decide

theorem decision_eq_of_iff (hdeny : d = some .deny ↔ d' = some .deny)
    (hallow : d = some .allow ↔ d' = some .allow) : d = d' := by
  match d with
  | some .deny => exact (hdeny.mp rfl).symm
  | some .allow => exact (hallow.mp rfl).symm
  | none =>
    match d' with
    | some .deny => exact hdeny.mpr rfl
    | some .allow => exact hallow.mpr rfl
    | none => rfl

end Effect

/-- The entry names one of the principals and contains all bits of the permission. -/
def AccessEntry.Concerns (e : AccessEntry) (held : PrincipalSet) (q : Permissions) : Prop :=
  e.principal ∈ held ∧ ∀ i, q.bits.getLsbD i = true → e.permissions.bits.getLsbD i = true

theorem AccessEntry.applies_iff_concerns {e : AccessEntry} {held : PrincipalSet} {q : Permissions} :
    e.applies held q = true ↔ e.Concerns held q := by
  rw [applies, Bool.and_eq_true, Permissions.contains_iff, Ascending.contains_iff, and_comm]
  rfl

namespace AccessList

variable {held : PrincipalSet} {q : Permissions}

theorem decideFrom_eq_allow_iff {acl : AccessList} {decision : Option Effect} :
    decideFrom held q acl decision = some .allow ↔
      (decision = some .allow ∨ ∃ e ∈ acl, e.applies held q = true ∧ e.effect = .allow) ∧
        ∀ e ∈ acl, e.applies held q = true → e.effect ≠ .deny := by
  induction acl generalizing decision with
  | nil => simp [decideFrom]
  | cons e rest ih =>
    rw [decideFrom]
    split
    · rename_i happ
      cases heff : e.effect with
      | deny => simp [happ, heff]
      | allow => simp [ih, happ, heff]
    · rename_i happ
      simp [ih, happ]

theorem decideFrom_eq_none_iff {acl : AccessList} {decision : Option Effect} :
    decideFrom held q acl decision = none ↔
      decision = none ∧ ∀ e ∈ acl, ¬ e.applies held q = true := by
  induction acl generalizing decision with
  | nil => simp [decideFrom]
  | cons e rest ih =>
    rw [decideFrom]
    split
    · rename_i happ
      cases heff : e.effect with
      | deny => simp [happ]
      | allow => simp [ih, happ]
    · rename_i happ
      simp [ih, happ]

theorem decideFrom_eq_deny_iff {acl : AccessList} {decision : Option Effect}
    (h : decision ≠ some .deny) :
    decideFrom held q acl decision = some .deny ↔
      ∃ e ∈ acl, e.applies held q = true ∧ e.effect = .deny := by
  induction acl generalizing decision with
  | nil => simp [decideFrom, h]
  | cons e rest ih =>
    rw [decideFrom]
    split
    · rename_i happ
      cases heff : e.effect with
      | deny => simp [happ, heff]
      | allow => simp [ih, happ, heff]
    · rename_i happ
      simp [ih h, happ]

theorem decide_eq_allow_iff {acl : AccessList} :
    acl.decide held q = some .allow ↔
      (∃ e ∈ acl, e.applies held q = true ∧ e.effect = .allow) ∧
        ∀ e ∈ acl, e.applies held q = true → e.effect ≠ .deny := by
  rw [decide, decideFrom_eq_allow_iff]
  simp

theorem decide_eq_deny_iff {acl : AccessList} :
    acl.decide held q = some .deny ↔ ∃ e ∈ acl, e.applies held q = true ∧ e.effect = .deny :=
  decideFrom_eq_deny_iff (by simp)

theorem decide_eq_none_iff {acl : AccessList} :
    acl.decide held q = none ↔ ∀ e ∈ acl, ¬ e.applies held q = true := by
  rw [decide, decideFrom_eq_none_iff]
  simp

/-! ## The entries as a set -/

variable {acl acl' : AccessList}

/-- An entry with this effect concerns the principals and the permission. -/
def HasEffect (acl : AccessList) (effect : Effect) (held : PrincipalSet) (q : Permissions) : Prop :=
  ∃ e ∈ acl, e.effect = effect ∧ e.Concerns held q

theorem hasEffect_iff {effect : Effect} :
    acl.HasEffect effect held q ↔ ∃ e ∈ acl, e.applies held q = true ∧ e.effect = effect := by
  simp only [HasEffect, AccessEntry.applies_iff_concerns, and_comm]

theorem hasEffect_congr (h : ∀ e, e ∈ acl ↔ e ∈ acl') (effect : Effect) :
    acl.HasEffect effect held q ↔ acl'.HasEffect effect held q := by
  simp only [HasEffect, h]

theorem hasEffect_append_iff {effect : Effect} :
    HasEffect (acl ++ acl') effect held q ↔
      acl.HasEffect effect held q ∨ acl'.HasEffect effect held q := by
  simp only [HasEffect, List.mem_append, or_and_right, exists_or]

theorem decide_eq_deny_iff_hasEffect :
    acl.decide held q = some .deny ↔ acl.HasEffect .deny held q :=
  decide_eq_deny_iff.trans hasEffect_iff.symm

theorem decide_eq_allow_iff_hasEffect :
    acl.decide held q = some .allow ↔
      acl.HasEffect .allow held q ∧ ¬ acl.HasEffect .deny held q := by
  rw [decide_eq_allow_iff, hasEffect_iff, hasEffect_iff]
  simp only [not_exists, not_and, ne_eq]

theorem decide_eq_none_iff_hasEffect :
    acl.decide held q = none ↔
      ¬ acl.HasEffect .deny held q ∧ ¬ acl.HasEffect .allow held q := by
  rw [Effect.decision_eq_none_iff, ne_eq, ne_eq, decide_eq_deny_iff_hasEffect,
    decide_eq_allow_iff_hasEffect]
  constructor
  · rintro ⟨hdeny, hallow⟩
    exact ⟨hdeny, fun h => hallow ⟨h, hdeny⟩⟩
  · rintro ⟨hdeny, hallow⟩
    exact ⟨hdeny, fun h => hallow h.1⟩

theorem decide_congr (h : ∀ e, e ∈ acl ↔ e ∈ acl') : acl.decide held q = acl'.decide held q := by
  apply Effect.decision_eq_of_iff
  · rw [decide_eq_deny_iff_hasEffect, decide_eq_deny_iff_hasEffect, hasEffect_congr h]
  · rw [decide_eq_allow_iff_hasEffect, decide_eq_allow_iff_hasEffect, hasEffect_congr h,
      hasEffect_congr h]

theorem decide_append (acl acl' : AccessList) :
    decide (acl ++ acl') held q = Effect.strictest (acl.decide held q) (acl'.decide held q) := by
  apply Effect.decision_eq_of_iff
  · simp only [Effect.strictest_eq_deny_iff, decide_eq_deny_iff_hasEffect, hasEffect_append_iff]
  · simp only [Effect.strictest_eq_allow_iff, ne_eq, decide_eq_deny_iff_hasEffect,
      decide_eq_allow_iff_hasEffect, hasEffect_append_iff, not_or]
    constructor
    · rintro ⟨hallow | hallow, hdeny⟩
      · exact ⟨.inl ⟨hallow, hdeny.1⟩, hdeny⟩
      · exact ⟨.inr ⟨hallow, hdeny.2⟩, hdeny⟩
    · rintro ⟨hallow | hallow, hdeny⟩
      · exact ⟨.inl hallow.1, hdeny⟩
      · exact ⟨.inr hallow.1, hdeny⟩

/-- Only which entries a list has matters for what it decides, however many bits the permission has,
and of two lists that are joined the strictest decides. -/
theorem decide_iff_hasEffect (acl : AccessList) (held : PrincipalSet) (q : Permissions) :
    (acl.decide held q = some .deny ↔ acl.HasEffect .deny held q) ∧
    (acl.decide held q = some .allow ↔
      ¬ acl.HasEffect .deny held q ∧ acl.HasEffect .allow held q) ∧
    (acl.decide held q = none ↔
      ¬ acl.HasEffect .deny held q ∧ ¬ acl.HasEffect .allow held q) ∧
    (∀ acl' : AccessList, (∀ e, e ∈ acl ↔ e ∈ acl') → acl.decide held q = acl'.decide held q) ∧
    ∀ acl' : AccessList,
      decide (acl ++ acl') held q = Effect.strictest (acl.decide held q) (acl'.decide held q) := by
  refine ⟨decide_eq_deny_iff_hasEffect, ?_, decide_eq_none_iff_hasEffect, ?_, decide_append acl⟩
  · rw [decide_eq_allow_iff_hasEffect, and_comm]
  · intro acl' h
    exact decide_congr h

end AccessList

end AccessGovernance
