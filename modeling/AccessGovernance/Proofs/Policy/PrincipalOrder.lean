import AccessGovernance.Proofs.Identity.PrincipalText
import AccessGovernance.Proofs.Identity.Subject
import AccessGovernance.Proofs.Policy.ListDecisions
import AccessGovernance.Proofs.Policy.Lookup

/-! # The order of principals

Principals stand in one line, by the names of their kinds and then by their values, and no two of
them stand at one place. So a set of principals that is searched by comparing finds exactly those
that are equal to one in it, whatever the shape of the tree that holds it, and access lists are
decided by the entries whose principal equals one that is held.
-/

namespace AccessGovernance

open Std

/-- A comparison by which all elements stand in one line, and only equal ones at one place. -/
structure IsTotalOrder {α : Type u} (cmp : α → α → Ordering) : Prop where
  refl : ∀ x, cmp x x = .eq
  antisymm : ∀ x y, (cmp x y).isLE = true → (cmp y x).isLE = true → x = y
  trans : ∀ x y z, (cmp x y).isLE = true → (cmp y z).isLE = true → (cmp x z).isLE = true
  total : ∀ x y, (cmp x y).isLE = true ∨ (cmp y x).isLE = true
  swap : ∀ x y, cmp y x = (cmp x y).swap

theorem isTotalOrder_of_lawful {α : Type u} (cmp : α → α → Ordering) [TransCmp cmp]
    [LawfulEqCmp cmp] : IsTotalOrder cmp where
  refl _ := ReflCmp.compare_self
  antisymm _ _ h h' := LawfulEqCmp.eq_of_compare (OrientedCmp.isLE_antisymm h h')
  trans _ _ _ h h' := TransCmp.isLE_trans h h'
  total x y := by
    have hswap : cmp y x = (cmp x y).swap := OrientedCmp.eq_swap
    rw [hswap]
    cases cmp x y <;> simp
  swap _ _ := OrientedCmp.eq_swap

/-! ## Searching by comparing -/

/-- A set held in a tree of any shape, the smaller elements to the left. -/
inductive SearchTree (α : Type u)
  | leaf
  | node (left : SearchTree α) (element : α) (right : SearchTree α)

namespace SearchTree

variable {α : Type u} {cmp : α → α → Ordering} {x : α}

def toList : SearchTree α → List α
  | leaf => []
  | node left y right => left.toList ++ y :: right.toList

/-- Goes down a single path, to the left of what is greater and to the right of what is smaller. -/
def contains (cmp : α → α → Ordering) (x : α) : SearchTree α → Bool
  | leaf => false
  | node left y right =>
      match cmp x y with
      | .lt => left.contains cmp x
      | .eq => true
      | .gt => right.contains cmp x

theorem contains_iff [TransCmp cmp] [LawfulEqCmp cmp] {t : SearchTree α}
    (h : t.toList.Pairwise fun x y => cmp x y = .lt) :
    t.contains cmp x = true ↔ x ∈ t.toList := by
  induction t with
  | leaf => simp [contains, toList]
  | node left y right ihl ihr =>
    rw [toList, List.pairwise_append, List.pairwise_cons] at h
    obtain ⟨hleft, ⟨hy, hright⟩, hacross⟩ := h
    rw [contains, toList, List.mem_append, List.mem_cons]
    -- what is on the other side cannot be equal, or it would compare like `x` with `y`
    split
    · rename_i hlt
      rw [ihl hleft]
      refine ⟨.inl, ?_⟩
      rintro (hx | rfl | hx)
      · exact hx
      · exact absurd hlt (Ascending.not_lt_self x)
      · exact absurd (TransCmp.lt_trans hlt (hy x hx)) (Ascending.not_lt_self x)
    · rename_i heq
      simp [LawfulEqCmp.eq_of_compare heq]
    · rename_i hgt
      rw [ihr hright]
      refine ⟨fun hx => .inr (.inr hx), ?_⟩
      have hlt : cmp y x = .lt := OrientedCmp.lt_of_gt hgt
      rintro (hx | rfl | hx)
      · exact absurd (TransCmp.lt_trans hlt (hacross x hx y List.mem_cons_self))
          (Ascending.not_lt_self y)
      · exact absurd hlt (Ascending.not_lt_self x)
      · exact hx

theorem contains_iff_mem [TransCmp cmp] [LawfulEqCmp cmp] {t : SearchTree α} {s : Ascending cmp}
    (h : t.toList = s.toList) : t.contains cmp x = true ↔ x ∈ s := by
  rw [contains_iff (h ▸ s.ascending), h, Ascending.mem_iff]

end SearchTree

/-! ## Principals -/

namespace PrincipalId

theorem compare_eq_lt_iff {p q : PrincipalId} :
    compare p q = .lt ↔
      p.kind.name < q.kind.name ∨ p.kind.name = q.kind.name ∧ p.value < q.value := by
  change (compare p.kind.name q.kind.name).then (compare p.value q.value) = .lt ↔ _
  rw [Ordering.then_eq_lt, LawfulEqCmp.compare_eq_iff_eq]
  exact or_congr compareOfLessAndEq_eq_lt (and_congr_right' compareOfLessAndEq_eq_lt)

theorem compare_eq_iff_text_eq {p q : PrincipalId} : compare p q = .eq ↔ p.text = q.text := by
  rw [LawfulEqCmp.compare_eq_iff_eq, text_inj]

end PrincipalId

theorem Principal.compare_eq_iff {p q : Principal} :
    compare p q = .eq ↔ p.id = q.id ∧ p.expiry = q.expiry := by
  rw [LawfulEqCmp.compare_eq_iff_eq]
  cases p
  cases q
  rw [mk.injEq]

theorem Policy.GroupNode.compare_id_eq_iff {g g' : GroupNode} :
    compare (PrincipalId.jitGroup g.id) (.jitGroup g'.id) = .eq ↔
      g.parent.environment.name = g'.parent.environment.name ∧
        g.parent.name = g'.parent.name ∧ g.name = g'.name := by
  rw [LawfulEqCmp.compare_eq_iff_eq, PrincipalId.jitGroup.injEq, id_eq_iff]
  rfl

theorem AccessEntry.applies_iff_exists_eq {e : AccessEntry} {held : PrincipalSet}
    {q : Permissions} : e.applies held q = true ↔
      e.permissions.contains q = true ∧ ∃ id ∈ held.toList, e.principal = id := by
  rw [applies, Bool.and_eq_true, Ascending.contains_iff, Ascending.mem_iff]
  simp

/-- The order of principals tells apart exactly the principals that are not equal, also those of
the groups of policies. So sets and access lists that compare principals go by equality. -/
theorem compare_principals :
    (IsTotalOrder (compare : PrincipalId → PrincipalId → Ordering) ∧
      IsTotalOrder (compare : Principal → Principal → Ordering)) ∧
    (∀ p q : PrincipalId,
      (compare p q = .lt ↔
        p.kind.name < q.kind.name ∨ p.kind.name = q.kind.name ∧ p.value < q.value) ∧
      (compare p q = .eq ↔ p = q) ∧ (compare p q = .eq ↔ p.text = q.text)) ∧
    (∀ g g' : Policy.GroupNode, compare (PrincipalId.jitGroup g.id) (.jitGroup g'.id) = .eq ↔
      g.parent.environment.name = g'.parent.environment.name ∧
        g.parent.name = g'.parent.name ∧ g.name = g'.name) ∧
    (∀ p q : Principal, compare p q = .eq ↔ p.id = q.id ∧ p.expiry = q.expiry) ∧
    (∀ (s : Subject) (tree : SearchTree Principal), tree.toList = s.principals.toList →
      ∀ p, tree.contains compare p = true ↔ p ∈ s.principals) ∧
    (∀ (s : Subject) (t : Instant) (tree : SearchTree PrincipalId),
      tree.toList = (s.idsAt t).toList →
        ∀ id, tree.contains compare id = true ↔ s.Holds id t) ∧
    ∀ (acl : AccessList) (held : PrincipalSet) (q : Permissions),
      (acl.decide held q = some .deny ↔ ∃ e ∈ acl, e.permissions.contains q = true ∧
        (∃ id ∈ held.toList, e.principal = id) ∧ e.effect = .deny) ∧
      (acl.decide held q = none ↔ ∀ e ∈ acl, e.permissions.contains q = true →
        ∀ id ∈ held.toList, e.principal ≠ id) := by
  refine ⟨⟨isTotalOrder_of_lawful _, isTotalOrder_of_lawful _⟩, fun p q => ⟨?_, ?_, ?_⟩,
    fun g g' => Policy.GroupNode.compare_id_eq_iff, fun p q => Principal.compare_eq_iff,
    fun s tree h p => SearchTree.contains_iff_mem h, fun s t tree h id => ?_,
    fun acl held q => ⟨?_, ?_⟩⟩
  · exact PrincipalId.compare_eq_lt_iff
  · exact LawfulEqCmp.compare_eq_iff_eq
  · exact PrincipalId.compare_eq_iff_text_eq
  · rw [SearchTree.contains_iff_mem h, Subject.mem_idsAt_iff]
  · simp only [AccessList.decide_eq_deny_iff, AccessEntry.applies_iff_exists_eq, and_assoc]
  · simp only [AccessList.decide_eq_none_iff, AccessEntry.applies_iff_exists_eq, not_and,
      not_exists, ne_eq]

end AccessGovernance
