import AccessGovernance.Proofs.Policy.Authorization
import AccessGovernance.Proofs.Policy.Insertion

/-! # Allowing entries only add, denying entries only take away

An entry that is added can make a policy decide for which those above it decided before, so it takes
an argument that one that allows takes nothing away and one that denies gives nothing. Decisions are
ordered from denied over undecided to allowed, and the search for the nearest decision keeps that
order.
-/

namespace AccessGovernance

namespace Effect

/-- The first decision is the second one or a stricter one. -/
structure AtMost (d d' : Option Effect) : Prop where
  allow : d = some .allow → d' = some .allow
  deny : d' = some .deny → d = some .deny

namespace AtMost

variable {d d' e e' : Option Effect}

theorem refl (d : Option Effect) : AtMost d d :=
  ⟨id, id⟩

theorem or (h : AtMost d d') (he : AtMost e e') : AtMost (d.or e) (d'.or e') where
  allow hallow := by
    rcases Option.or_eq_some_iff.mp hallow with hd | ⟨hd, hallow⟩
    · rw [h.allow hd]
      rfl
    · -- where nothing was decided, nothing has come to be denied
      have hd' : d' ≠ some .deny := fun hd' => by simp [h.deny hd'] at hd
      match d' with
      | none => exact he.allow hallow
      | some .allow => rfl
      | some .deny => exact absurd rfl hd'
  deny hdeny := by
    rcases Option.or_eq_some_iff.mp hdeny with hd' | ⟨hd', hdeny⟩
    · rw [h.deny hd']
      rfl
    · have hd : d ≠ some .allow := fun hd => by simp [h.allow hd] at hd'
      match d with
      | none => exact he.deny hdeny
      | some .deny => rfl
      | some .allow => exact absurd rfl hd

theorem findSome?_cons_eq_or {α β : Type} {f : α → Option β} {x : α} {xs : List α} :
    (x :: xs).findSome? f = (f x).or (xs.findSome? f) := by
  rw [List.findSome?_cons]
  cases f x <;> rfl

/-- The search for the nearest decision keeps the order of decisions. -/
theorem findSome? {α β : Type} {f : α → Option Effect} {g : β → Option Effect} {xs : List α}
    {ys : List β} (h : List.Forall₂ (fun x y => AtMost (f x) (g y)) xs ys) :
    AtMost (xs.findSome? f) (ys.findSome? g) := by
  induction h with
  | nil => exact refl none
  | cons hhead _ ih =>
    rw [findSome?_cons_eq_or, findSome?_cons_eq_or]
    exact hhead.or ih

end AtMost

end Effect

open Effect (AtMost)

namespace AccessList

variable {held : PrincipalSet} {q : Permissions}

/-- A list with more allowing and fewer denying entries is no stricter, wherever these stand. -/
theorem atMost_decide {acl acl' : AccessList}
    (hallow : ∀ e ∈ acl, e.effect = .allow → e ∈ acl')
    (hdeny : ∀ e ∈ acl', e.effect = .deny → e ∈ acl) :
    AtMost (acl.decide held q) (acl'.decide held q) where
  allow h := by
    obtain ⟨⟨e, he, happ, heff⟩, hnone⟩ := decide_eq_allow_iff.mp h
    refine decide_eq_allow_iff.mpr ⟨⟨e, hallow e he heff, happ, heff⟩, ?_⟩
    intro e' he' happ' heff'
    exact hnone e' (hdeny e' he' heff') happ' heff'
  deny h := by
    obtain ⟨e, he, happ, heff⟩ := decide_eq_deny_iff.mp h
    exact decide_eq_deny_iff.mpr ⟨e, hdeny e he heff, happ, heff⟩

end AccessList

namespace Policy

variable {entry : AccessEntry}

namespace Node

variable {n n' : Node} {held : PrincipalSet} {q : Permissions}

theorem ownDecision_eq : n.ownDecision held q = n.header.entries.decide held q := by
  rw [ownDecision, Header.entries]
  cases n.header.acl <;> rfl

theorem atMost_ownDecision_of_allow (hentry : entry.effect = .allow)
    (h : n.header.Gains entry n'.header) :
    AtMost (n.ownDecision held q) (n'.ownDecision held q) := by
  obtain ⟨hkept, hadded⟩ := h.mem_entries
  rw [ownDecision_eq, ownDecision_eq]
  refine AccessList.atMost_decide (fun e he _ => hkept e he) fun e he hdeny => ?_
  rcases hadded e he with rfl | he
  · rw [hentry] at hdeny
    cases hdeny
  · exact he

theorem atMost_ownDecision_of_deny (hentry : entry.effect = .deny)
    (h : n.header.Gains entry n'.header) :
    AtMost (n'.ownDecision held q) (n.ownDecision held q) := by
  obtain ⟨hkept, hadded⟩ := h.mem_entries
  rw [ownDecision_eq, ownDecision_eq]
  refine AccessList.atMost_decide (fun e he hallow => ?_) fun e he _ => hkept e he
  rcases hadded e he with rfl | he
  · rw [hentry] at hallow
    cases hallow
  · exact he

theorem atMost_decide {held' : PrincipalSet}
    (h : List.Forall₂ (fun m m' => AtMost (m.ownDecision held q) (m'.ownDecision held' q))
      n.ancestry n'.ancestry) : AtMost (n.decide held q) (n'.decide held' q) :=
  AtMost.findSome? h

theorem isAllowedAt_of_atMost {subject : Subject} {required : Permissions} {t t' : Instant}
    (h : ∀ q, AtMost (n.decide (subject.idsAt t) q) (n'.decide (subject.idsAt t') q))
    (hallowed : n.isAllowedAt subject required t = true) :
    n'.isAllowedAt subject required t' = true := by
  rw [isAllowedAt, List.all_eq_true] at hallowed ⊢
  intro q hq
  exact decide_eq_true ((h q).allow (of_decide_eq_true (hallowed q hq)))

theorem Gains.isAllowedAt_of_allow {subject : Subject} {required : Permissions} {t : Instant}
    (hentry : entry.effect = .allow) (h : n.Gains entry n') :
    n.isAllowedAt subject required t = true → n'.isAllowedAt subject required t = true :=
  isAllowedAt_of_atMost fun _ => atMost_decide (h.imp fun _ _ => atMost_ownDecision_of_allow hentry)

theorem Gains.isAllowedAt_of_deny {subject : Subject} {required : Permissions} {t : Instant}
    (hentry : entry.effect = .deny) (h : n.Gains entry n') :
    n'.isAllowedAt subject required t = true → n.isAllowedAt subject required t = true :=
  isAllowedAt_of_atMost fun _ =>
    atMost_decide (.flip (h.imp fun _ _ => atMost_ownDecision_of_deny hentry))

end Node

/-- Every policy has a place, and an entry can be added at every place. The policies of the new
environment allow whatever those before at the same places allow, if the entry allows, and nothing
else, if it denies. -/
theorem EnvironmentTree.isAllowedAt_insertEntry (e : EnvironmentTree) (i : Nat) (added : Place)
    (principal : PrincipalId) (permissions : Permissions) (subject : Subject)
    (required : Permissions) (t : Instant) :
    (∀ n ∈ e.nodes, e.node? n.place = some n) ∧
    (∀ entry, ((e.insertEntry i entry added).node? added).map Node.header =
      (e.node? added).map fun n => n.header.insertEntry i entry) ∧
    (∀ place, Option.Rel
      (fun n n' => n.isAllowedAt subject required t = true →
        n'.isAllowedAt subject required t = true)
      (e.node? place) ((e.insertEntry i ⟨principal, .allow, permissions⟩ added).node? place)) ∧
    ∀ place, Option.Rel
      (fun n n' => n'.isAllowedAt subject required t = true →
        n.isAllowedAt subject required t = true)
      (e.node? place) ((e.insertEntry i ⟨principal, .deny, permissions⟩ added).node? place) := by
  refine ⟨fun n => node?_place, fun entry => e.header_insertEntry added, fun place => ?_,
    fun place => ?_⟩
  · exact rel_imp ((e.gains_insertEntry added).node? place)
      fun _ _ => Node.Gains.isAllowedAt_of_allow rfl
  · exact rel_imp ((e.gains_insertEntry added).node? place)
      fun _ _ => Node.Gains.isAllowedAt_of_deny rfl

end Policy

end AccessGovernance
