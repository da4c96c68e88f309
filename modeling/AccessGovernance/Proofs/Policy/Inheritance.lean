import AccessGovernance.Proofs.Policy.Authorization
import Mathlib.Data.List.Forall2
import Mathlib.Data.List.Nodup
import Mathlib.Logic.ExistsUnique

/-! # Inherited constraints

A policy adds its own constraints in front of those that apply above it, and takes the place of the
ones with a name that it defines itself. So each name that is defined on the way to the root applies
once, as the nearest policy defines it. The two classes have nothing to do with each other.
-/

namespace AccessGovernance

namespace Policy

theorem Header.nodup_constraints (h : Header) (class' : ConstraintClass) :
    ((h.constraints class').map Constraint.name).Nodup := by
  cases class' with
  | join => exact h.join.nodup
  | approve => exact h.approve.nodup

namespace Node

/-! ## Names that were seen -/

theorem firstOfEachName_eq_filter (seen : List String) (cs : List Constraint) :
    firstOfEachName seen cs = (firstOfEachName [] cs).filter fun c => c.name ∉ seen := by
  induction cs generalizing seen with
  | nil => rfl
  | cons c rest ih =>
    have hfirst : firstOfEachName [] (c :: rest) =
        c :: (firstOfEachName [] rest).filter fun d => d.name ∉ [c.name] := by
      rw [firstOfEachName, if_neg List.not_mem_nil, ih [c.name]]
    rw [hfirst, firstOfEachName]
    split
    · rename_i hc
      rw [List.filter_cons_of_neg (by simpa using hc), List.filter_filter, ih seen]
      apply List.filter_congr
      intro d _
      -- a name that is not among the seen ones is not the one of `c`
      by_cases hd : d.name = c.name <;> simp [hd, hc]
    · rename_i hc
      rw [List.filter_cons_of_pos (by simpa using hc), List.filter_filter, ih (c.name :: seen)]
      congr 1
      apply List.filter_congr
      intro d _
      by_cases hd : d.name = c.name <;> simp [hd]

theorem firstOfEachName_cons (c : Constraint) (rest : List Constraint) :
    firstOfEachName [] (c :: rest) =
      c :: (firstOfEachName [] rest).filter fun d => d.name ≠ c.name := by
  rw [firstOfEachName, if_neg List.not_mem_nil, firstOfEachName_eq_filter]
  simp only [List.mem_singleton, ne_eq]

theorem firstOfEachName_append (cs ds : List Constraint) :
    firstOfEachName [] (cs ++ ds) = firstOfEachName [] cs ++
      (firstOfEachName [] ds).filter fun d => d.name ∉ cs.map Constraint.name := by
  induction cs with
  | nil => simp [firstOfEachName]
  | cons c rest ih =>
    rw [List.cons_append, firstOfEachName_cons, firstOfEachName_cons, ih, List.filter_append,
      List.filter_filter, List.cons_append]
    congr 2
    apply List.filter_congr
    intro d _
    simp

theorem firstOfEachName_of_nodup {cs : List Constraint} (h : (cs.map Constraint.name).Nodup) :
    firstOfEachName [] cs = cs := by
  induction cs with
  | nil => rfl
  | cons c rest ih =>
    obtain ⟨hc, hrest⟩ := List.nodup_cons.mp h
    rw [firstOfEachName_cons, ih hrest, List.filter_eq_self.mpr]
    intro d hd
    have hne : d.name ≠ c.name := fun heq => hc (heq ▸ List.mem_map_of_mem hd)
    exact decide_eq_true hne

/-! ## Constraints that apply -/

/-- The constraint stands in the first policy on the way to the root that defines its name. -/
inductive Applies (class' : ConstraintClass) (c : Constraint) : Node → Prop
  | own {n : Node} (h : c ∈ n.header.constraints class') : Applies class' c n
  | inherited {n m : Node} (hn : ∀ d ∈ n.header.constraints class', d.name ≠ c.name)
      (hm : n.parent? = some m) (h : Applies class' c m) : Applies class' c n

variable {n : Node} {class' : ConstraintClass} {c : Constraint}

theorem constraints_eq (n : Node) (class' : ConstraintClass) :
    n.constraints class' = n.header.constraints class' ++
      ((n.parent?.map fun m => m.constraints class').getD []).filter fun c =>
        c.name ∉ (n.header.constraints class').map Constraint.name := by
  have hparent : firstOfEachName [] (((n.parent?.map ancestry).getD []).flatMap
        fun m => m.header.constraints class') =
      (n.parent?.map fun m => m.constraints class').getD [] := by
    cases n.parent? <;> rfl
  rw [constraints, ancestry_eq, List.flatMap_cons, firstOfEachName_append,
    firstOfEachName_of_nodup (n.header.nodup_constraints class'), hparent]

theorem mem_constraints_iff_of_parent :
    c ∈ n.constraints class' ↔ c ∈ n.header.constraints class' ∨
      (∀ d ∈ n.header.constraints class', d.name ≠ c.name) ∧
        ∃ m, n.parent? = some m ∧ c ∈ m.constraints class' := by
  have hname : c.name ∉ (n.header.constraints class').map Constraint.name ↔
      ∀ d ∈ n.header.constraints class', d.name ≠ c.name := by
    rw [List.mem_map]
    push Not
    rfl
  rw [constraints_eq, List.mem_append, List.mem_filter, decide_eq_true_iff, hname, and_comm]
  cases n.parent? <;> simp

theorem mem_constraints_iff : c ∈ n.constraints class' ↔ Applies class' c n := by
  induction n using parent_induction with
  | h n ih =>
    rw [mem_constraints_iff_of_parent]
    constructor
    · rintro (h | ⟨hn, m, hm, h⟩)
      · exact .own h
      · exact .inherited hn hm ((ih m hm).mp h)
    · rintro (h | ⟨hn, hm, h⟩)
      · exact .inl h
      · exact .inr ⟨hn, _, hm, (ih _ hm).mpr h⟩

theorem nodup_constraints (n : Node) (class' : ConstraintClass) :
    ((n.constraints class').map Constraint.name).Nodup := by
  induction n using parent_induction with
  | h n ih =>
    have hinherited : (((n.parent?.map fun m => m.constraints class').getD []).map
        Constraint.name).Nodup := by
      cases hm : n.parent? with
      | none => exact .nil
      | some m => exact ih m hm
    rw [constraints_eq, List.map_append]
    refine (n.header.nodup_constraints class').append
      (hinherited.sublist (List.filter_sublist.map _)) ?_
    intro name hown hkept
    obtain ⟨c, hc, rfl⟩ := List.mem_map.mp hkept
    exact of_decide_eq_true (List.mem_filter.mp hc).2 hown

theorem exists_applies {m : Node} (h : n.IsBelow m) {d : Constraint}
    (hd : d ∈ m.header.constraints class') : ∃ c, Applies class' c n ∧ c.name = d.name := by
  induction h using Relation.ReflTransGen.head_induction_on with
  | refl => exact ⟨d, .own hd, rfl⟩
  | @head n k hk _ ih =>
    by_cases hown : ∃ c ∈ n.header.constraints class', c.name = d.name
    · obtain ⟨c, hc, hname⟩ := hown
      exact ⟨c, .own hc, hname⟩
    · obtain ⟨c, hc, hname⟩ := ih
      refine ⟨c, .inherited ?_ hk hc, hname⟩
      intro c' hc' hname'
      exact hown ⟨c', hc', hname'.trans hname⟩

theorem constraints_congr {n' : Node}
    (h : List.Forall₂ (fun m m' => m.header.constraints class' = m'.header.constraints class')
      n.ancestry n'.ancestry) : n.constraints class' = n'.constraints class' := by
  rw [constraints, constraints]
  congr 1
  generalize n.ancestry = ms, n'.ancestry = ms' at h
  induction h with
  | nil => rfl
  | cons hhead _ ih => rw [List.flatMap_cons, List.flatMap_cons, hhead, ih]

/-- A policy's own constraints come first, in the order in which they were given to it, then those
that apply above it under other names. So of every name that is defined the nearest definition
applies, once. Nothing else that the policies have matters, their constraints of the other class
included. -/
theorem constraints_inheritance (n : Node) (class' : ConstraintClass) :
    (n.constraints class' = n.header.constraints class' ++
      ((n.parent?.map fun m => m.constraints class').getD []).filter fun c =>
        c.name ∉ (n.header.constraints class').map Constraint.name) ∧
    ((n.constraints class').map Constraint.name).Nodup ∧
    (∀ c, c ∈ n.constraints class' ↔ Applies class' c n) ∧
    (∀ m, n.IsBelow m → ∀ d ∈ m.header.constraints class',
      ∃! c, c ∈ n.constraints class' ∧ c.name = d.name) ∧
    (∀ n' : Node,
      List.Forall₂ (fun m m' => m.header.constraints class' = m'.header.constraints class')
        n.ancestry n'.ancestry → n.constraints class' = n'.constraints class') ∧
    (∀ (h : Header) (cs : List Constraint), h.withConstraints class' cs = .ok n.header →
      n.constraints class' = cs ++
        ((n.parent?.map fun m => m.constraints class').getD []).filter fun c =>
          c.name ∉ cs.map Constraint.name) ∧
    ∀ (h : Header) (other : ConstraintClass) (cs : List Constraint), other ≠ class' →
      h.withConstraints other cs = .ok n.header →
        n.header.constraints class' = h.constraints class' := by
  refine ⟨constraints_eq n class', nodup_constraints n class', fun _ => mem_constraints_iff, ?_,
    fun _ => constraints_congr, ?_, ?_⟩
  · intro m hm d hd
    obtain ⟨c, hc, hname⟩ := exists_applies hm hd
    refine ⟨c, ⟨mem_constraints_iff.mpr hc, hname⟩, ?_⟩
    rintro c' ⟨hc', hname'⟩
    exact List.inj_on_of_nodup_map (nodup_constraints n class') hc' (mem_constraints_iff.mpr hc)
      (hname'.trans hname.symm)
  · intro h cs hwith
    have hown : n.header.constraints class' = cs := by
      rw [Header.constraints_of_withConstraints hwith, if_pos rfl]
    rw [constraints_eq, hown]
  · intro h other cs hother hwith
    rw [Header.constraints_of_withConstraints hwith, if_neg hother.symm]

end Node

end Policy

end AccessGovernance
