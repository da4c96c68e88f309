import AccessGovernance.Policy.Decision
import AccessGovernance.Proofs.Identity.Subject
import AccessGovernance.Proofs.Policy.ListDecisions
import Mathlib.Logic.Relation

/-! # Who is allowed what

A permission is granted at a policy if, on the way to the root, the first list with an entry that
speaks of it has one that allows it and none that denies it. Here this is said by entries, expiries
and single bits, without the sets and the search from which decisions are computed.
-/

namespace AccessGovernance

namespace Permissions

/-- The permissions that are decided one by one: the six lowest bits stand for themselves, and the
others are decided together. -/
inductive IsPart (p : Permissions) : Permissions → Prop
  | named {i : Nat} (hi : i < 6) (h : p.bits.getLsbD i = true) : IsPart p ⟨BitVec.twoPow 32 i⟩
  | unnamed (h : p.bits &&& 0xFFFFFFC0#32 ≠ 0#32) : IsPart p ⟨p.bits &&& 0xFFFFFFC0#32⟩

theorem named_eq : named.map Prod.snd = (List.range 6).map fun i => ⟨BitVec.twoPow 32 i⟩ := by
  decide

theorem unnamed_eq (p : Permissions) : p.unnamed = ⟨p.bits &&& 0xFFFFFFC0#32⟩ := by
  rw [unnamed]
  congr 1

theorem contains_twoPow_iff {p : Permissions} {i : Nat} (hi : i < 32) :
    p.contains ⟨BitVec.twoPow 32 i⟩ = true ↔ p.bits.getLsbD i = true := by
  rw [contains_iff]
  constructor
  · intro h
    apply h
    simp [hi]
  · intro h j hj
    rw [BitVec.getLsbD_twoPow] at hj
    obtain rfl : i = j := by simpa using (Bool.and_eq_true_iff.mp hj).2
    exact h

theorem mem_namedIn_iff {p q : Permissions} :
    q ∈ p.namedIn.map Prod.snd ↔ ∃ i < 6, p.bits.getLsbD i = true ∧ q = ⟨BitVec.twoPow 32 i⟩ := by
  have hfilter : p.namedIn.map Prod.snd = (named.map Prod.snd).filter p.contains := by
    rw [namedIn, List.filter_map]
    rfl
  rw [hfilter, named_eq, List.mem_filter, List.mem_map]
  constructor
  · rintro ⟨⟨i, hi, rfl⟩, hc⟩
    have hi : i < 6 := List.mem_range.mp hi
    exact ⟨i, hi, (contains_twoPow_iff (by omega)).mp hc, rfl⟩
  · rintro ⟨i, hi, hp, rfl⟩
    exact ⟨⟨i, List.mem_range.mpr hi, rfl⟩, (contains_twoPow_iff (by omega)).mpr hp⟩

theorem mem_parts_iff {p q : Permissions} : q ∈ p.parts ↔ p.IsPart q := by
  rw [parts, List.mem_append, mem_namedIn_iff, unnamed_eq]
  constructor
  · rintro (⟨i, hi, hp, rfl⟩ | h)
    · exact .named hi hp
    · split at h
      · simp at h
      · rename_i hne
        obtain rfl := List.mem_singleton.mp h
        exact .unnamed fun he => hne (by simp [he, empty])
  · rintro (⟨hi, hp⟩ | hne)
    · exact .inl ⟨_, hi, hp, rfl⟩
    · have hne' : (⟨p.bits &&& 0xFFFFFFC0#32⟩ : Permissions) ≠ empty :=
        fun he => hne (congrArg Permissions.bits he)
      right
      rw [if_neg hne']
      exact List.mem_singleton.mpr rfl

theorem isPart_twoPow_iff {q : Permissions} {i : Nat} (hi : i < 6) :
    IsPart ⟨BitVec.twoPow 32 i⟩ q ↔ q = ⟨BitVec.twoPow 32 i⟩ := by
  have hnamed : ∀ i < 6, BitVec.twoPow 32 i &&& 0xFFFFFFC0#32 = 0#32 := by decide
  constructor
  · rintro (⟨_, h⟩ | h)
    · rw [BitVec.getLsbD_twoPow] at h
      obtain rfl : i = _ := by simpa using (Bool.and_eq_true_iff.mp h).2
      rfl
    · exact absurd (hnamed i hi) h
  · rintro rfl
    exact .named hi (by simp; omega)

end Permissions

/-- The entry is about a principal of the subject and about all of the permission. -/
def AccessEntry.SpeaksOf (e : AccessEntry) (subject : Subject) (t : Instant) (q : Permissions) :
    Prop :=
  subject.Holds e.principal t ∧ ∀ i, q.bits.getLsbD i = true → e.permissions.bits.getLsbD i = true

theorem AccessEntry.applies_iff {e : AccessEntry} {subject : Subject} {t : Instant}
    {q : Permissions} : e.applies (subject.idsAt t) q = true ↔ e.SpeaksOf subject t q := by
  rw [applies_iff_concerns, Concerns, Subject.mem_idsAt_iff]
  rfl

namespace Policy

namespace Node

def HasEntry (n : Node) (e : AccessEntry) : Prop :=
  ∃ acl, n.header.acl = some acl ∧ e ∈ acl

structure Allows (n : Node) (subject : Subject) (t : Instant) (q : Permissions) : Prop where
  allowed : ∃ e, n.HasEntry e ∧ e.SpeaksOf subject t q ∧ e.effect = .allow
  notDenied : ∀ e, n.HasEntry e → e.SpeaksOf subject t q → e.effect ≠ .deny

/-- The policy's own list leaves the permission to the policies above. -/
def IsSilent (n : Node) (subject : Subject) (t : Instant) (q : Permissions) : Prop :=
  ∀ e, n.HasEntry e → ¬ e.SpeaksOf subject t q

/-- The first policy on the way to the root that speaks of the permission allows it. -/
inductive Grants (subject : Subject) (t : Instant) (q : Permissions) : Node → Prop
  | here {n : Node} (h : n.Allows subject t q) : Grants subject t q n
  | above {n m : Node} (hn : n.IsSilent subject t q) (hm : n.parent? = some m)
      (h : Grants subject t q m) : Grants subject t q n

def IsBelow (n m : Node) : Prop :=
  Relation.ReflTransGen (fun a b : Node => a.parent? = some b) n m

theorem parent_induction {P : Node → Prop} (h : ∀ n, (∀ m, n.parent? = some m → P m) → P n)
    (n : Node) : P n := by
  -- There are three levels, and the parent of a policy is one level up.
  have henv : ∀ e, P (environment e) := by
    intro e
    apply h
    intro m hm
    cases hm
  have hsys : ∀ s, P (system s) := by
    intro s
    apply h
    rintro m ⟨⟩
    exact henv _
  cases n with
  | environment e => exact henv e
  | system s => exact hsys s
  | group g =>
    apply h
    rintro m ⟨⟩
    exact hsys _

def ownDecision (n : Node) (held : PrincipalSet) (q : Permissions) : Option Effect :=
  n.header.acl.bind fun acl => acl.decide held q

theorem decide_eq (n : Node) (held : PrincipalSet) (q : Permissions) :
    n.decide held q = (n.ownDecision held q).or (n.parent?.bind fun m => m.decide held q) := by
  change n.ancestry.findSome? (fun m => m.ownDecision held q) = _
  rw [ancestry_eq, List.findSome?_cons]
  cases n.ownDecision held q with
  | some effect => rfl
  | none => cases n.parent? <;> rfl

/-- What stands at a policy and at those above it, without what stands beside them. -/
def headers (n : Node) : List Header :=
  n.ancestry.map header

theorem decide_eq_findSome?_headers {n : Node} {held : PrincipalSet} {q : Permissions} :
    n.decide held q = n.headers.findSome? fun h => h.acl.bind fun acl => acl.decide held q := by
  rw [headers, List.findSome?_map]
  rfl

theorem isAllowedAt_of_headers {n n' : Node} (h : n.headers = n'.headers) (subject : Subject)
    (required : Permissions) (t : Instant) :
    n.isAllowedAt subject required t = n'.isAllowedAt subject required t := by
  simp only [isAllowedAt, decide_eq_findSome?_headers, h]

variable {n : Node} {subject : Subject} {t : Instant} {q : Permissions}

theorem ownDecision_eq_allow_iff :
    n.ownDecision (subject.idsAt t) q = some .allow ↔ n.Allows subject t q := by
  have happ : ∀ e : AccessEntry, e.applies (subject.idsAt t) q = true ↔ e.SpeaksOf subject t q :=
    fun _ => AccessEntry.applies_iff
  rw [ownDecision, Option.bind_eq_some_iff]
  constructor
  · rintro ⟨acl, hacl, h⟩
    obtain ⟨⟨e, he, hs, heff⟩, hdeny⟩ := AccessList.decide_eq_allow_iff.mp h
    constructor
    · exact ⟨e, ⟨acl, hacl, he⟩, (happ e).mp hs, heff⟩
    · rintro e ⟨acl', hacl', he⟩ hs
      obtain rfl := Option.some.inj (hacl.symm.trans hacl')
      exact hdeny e he ((happ e).mpr hs)
  · rintro ⟨⟨e, ⟨acl, hacl, he⟩, hs, heff⟩, hdeny⟩
    refine ⟨acl, hacl, AccessList.decide_eq_allow_iff.mpr ?_⟩
    constructor
    · exact ⟨e, he, (happ e).mpr hs, heff⟩
    · intro e he hs
      exact hdeny e ⟨acl, hacl, he⟩ ((happ e).mp hs)

theorem ownDecision_eq_none_iff :
    n.ownDecision (subject.idsAt t) q = none ↔ n.IsSilent subject t q := by
  rw [ownDecision, Option.bind_eq_none_iff]
  constructor
  · rintro h e ⟨acl, hacl, he⟩ hs
    have hd := AccessList.decide_eq_none_iff.mp (h acl hacl)
    exact hd e he (AccessEntry.applies_iff.mpr hs)
  · intro h acl hacl
    refine AccessList.decide_eq_none_iff.mpr ?_
    intro e he hs
    exact h e ⟨acl, hacl, he⟩ (AccessEntry.applies_iff.mp hs)

theorem decide_eq_allow_iff :
    n.decide (subject.idsAt t) q = some .allow ↔ Grants subject t q n := by
  induction n using parent_induction with
  | h n ih =>
    rw [decide_eq, Option.or_eq_some_iff, ownDecision_eq_allow_iff, ownDecision_eq_none_iff,
      Option.bind_eq_some_iff]
    constructor
    · rintro (h | ⟨hn, m, hm, h⟩)
      · exact .here h
      · exact .above hn hm ((ih m hm).mp h)
    · rintro (h | ⟨hn, hm, h⟩)
      · exact .inl h
      · exact .inr ⟨hn, _, hm, (ih _ hm).mpr h⟩

theorem isAllowedAt_iff {required : Permissions} :
    n.isAllowedAt subject required t = true ↔
      ∀ q, required.IsPart q → Grants subject t q n := by
  rw [isAllowedAt, List.all_eq_true]
  constructor
  · intro h q hq
    exact decide_eq_allow_iff.mp (of_decide_eq_true (h q (Permissions.mem_parts_iff.mpr hq)))
  · intro h q hq
    exact decide_eq_true (decide_eq_allow_iff.mpr (h q (Permissions.mem_parts_iff.mp hq)))

theorem grants_environment_iff {e : EnvironmentTree} :
    Grants subject t q (environment e) ↔ (environment e).Allows subject t q := by
  constructor
  · rintro (h | ⟨_, hm, _⟩)
    · exact h
    · cases hm
  · exact .here

theorem Grants.exists_isBelow (h : Grants subject t q n) :
    ∃ m, n.IsBelow m ∧ ¬ m.IsSilent subject t q := by
  induction h with
  | here h =>
    obtain ⟨e, he, hs, _⟩ := h.allowed
    exact ⟨_, .refl, fun hsilent => hsilent e he hs⟩
  | above _ hm _ ih =>
    obtain ⟨k, hk, hspoken⟩ := ih
    exact ⟨k, .head hm hk, hspoken⟩

/-- Being allowed something means that each part of it is granted. Nothing is granted that no policy
speaks of, and having no permission at all is allowed to everybody. -/
theorem isAllowedAt_iff_forall_isPart (n : Node) (subject : Subject) (required : Permissions)
    (t : Instant) :
    (n.isAllowedAt subject required t = true ↔ ∀ q, required.IsPart q → Grants subject t q n) ∧
      (∀ q, required.IsPart q → (∀ m, n.IsBelow m → m.IsSilent subject t q) →
        n.isAllowedAt subject required t = false) ∧
      n.isAllowedAt subject .empty t = true := by
  refine ⟨isAllowedAt_iff, ?_, ?_⟩
  · intro q hq hsilent
    rw [← Bool.not_eq_true]
    intro hallowed
    obtain ⟨m, hm, hspoken⟩ := (isAllowedAt_iff.mp hallowed q hq).exists_isBelow
    exact hspoken (hsilent m hm)
  · rw [isAllowedAt_iff]
    rintro q (⟨_, h⟩ | h)
    · simp [Permissions.empty] at h
    · simp [Permissions.empty] at h

end Node

end Policy

end AccessGovernance
