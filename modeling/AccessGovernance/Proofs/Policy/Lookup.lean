import AccessGovernance.Policy.Tree
import Mathlib.Data.List.Pairwise

/-! # Looking up policies

Looking a system or a group up by name finds exactly the listed one of that name, and looking a
group up in an environment finds exactly the listed one with that id. Siblings have different names,
so no more than one can be meant.
-/

namespace AccessGovernance

open Std

theorem Ascending.eq_of_compare_eq {α : Type u} {cmp : α → α → Ordering} [OrientedCmp cmp]
    {s : Ascending cmp} {x y : α} (hx : x ∈ s) (hy : y ∈ s) (h : cmp x y = .eq) : x = y := by
  have hsymm : Symm fun a b => cmp a b = .eq → a = b :=
    ⟨fun a b hab heq => (hab (OrientedCmp.eq_symm heq)).symm⟩
  have hs : s.toList.Pairwise fun a b => cmp a b = .eq → a = b :=
    s.ascending.imp fun hlt heq => by simp [hlt] at heq
  exact hs.forall_of_forall (fun _ _ _ => rfl) hx hy h

theorem Ascending.find?_eq_some_iff {α : Type u} {name : α → String}
    [OrientedCmp (compareOn name)] {s : Ascending (compareOn name)} {p : α → Bool} {x : α}
    (hp : ∀ y z, p y = true → p z = true → name y = name z) :
    s.toList.find? p = some x ↔ x ∈ s ∧ p x = true := by
  constructor
  · intro h
    exact ⟨List.mem_of_find?_eq_some h, List.find?_some h⟩
  · rintro ⟨hx, hpx⟩
    obtain ⟨y, hy⟩ := Option.isSome_iff_exists.mp (List.find?_isSome.mpr ⟨x, hx, hpx⟩)
    have hname : name y = name x := hp y x (List.find?_some hy) hpx
    have hyx : y = x := by
      apply eq_of_compare_eq (List.mem_of_find?_eq_some hy) hx
      rw [compareOn, hname]
      exact ReflCmp.compare_self
    rw [hy, hyx]

theorem Ascending.pairwise_name {α : Type} {name : α → String} (s : Ascending (compareOn name)) :
    (s.toList.map name).Pairwise (· < ·) :=
  List.pairwise_map.mpr (s.ascending.imp fun h => compareOfLessAndEq_eq_lt.mp h)

def Ascending.filter {α : Type u} {cmp : α → α → Ordering} (s : Ascending cmp) (p : α → Bool) :
    Ascending cmp :=
  ⟨s.toList.filter p, s.ascending.filter p⟩

theorem Ascending.find?_filter {α : Type u} {name : α → String} [OrientedCmp (compareOn name)]
    (s : Ascending (compareOn name)) (shown : α → Bool) {p : α → Bool}
    (hp : ∀ y z, p y = true → p z = true → name y = name z) :
    (s.filter shown).toList.find? p = (s.toList.find? p).filter shown := by
  apply Option.ext
  intro x
  rw [find?_eq_some_iff hp, Option.filter_eq_some_iff, find?_eq_some_iff hp, and_right_comm]
  exact and_congr_left' List.mem_filter

/-- The elements with other content under the same names. -/
def Ascending.map {α : Type u} {name : α → String} (s : Ascending (compareOn name)) (f : α → α)
    (hf : ∀ x, name (f x) = name x) : Ascending (compareOn name) where
  toList := s.toList.map f
  ascending := by
    refine List.pairwise_map.mpr (s.ascending.imp fun hlt => ?_)
    rwa [compareOn, hf, hf]

theorem Ascending.find?_map {α : Type u} {name : α → String} (s : Ascending (compareOn name))
    {f : α → α} (hf : ∀ x, name (f x) = name x) (q : String → Bool) :
    ((s.map f hf).toList.find? fun x => q (name x)) =
      (s.toList.find? fun x => q (name x)).map f := by
  have hq : (fun x => q (name x)) ∘ f = fun x => q (name x) := by
    funext x
    rw [Function.comp_apply, hf]
  rw [map, List.find?_map, hq]

theorem Label.text_inj {k l : Label} : k.text = l.text ↔ k = l := by
  cases k
  cases l
  simp

namespace Policy

theorem isNamed_iff {name text : String} :
    isNamed name text = true ↔ Text.canonical text.toList = name.toList := by
  rw [isNamed, decide_eq_true_iff, eq_comm]

theorem isNamed_unique {text : String} {m n : String} (hm : isNamed m text = true)
    (hn : isNamed n text = true) : m = n := by
  rw [isNamed, decide_eq_true_iff] at hm hn
  exact String.toList_inj.mp (hm.trans hn.symm)

theorem isNamed_label_iff {name : String} {l : Label} :
    isNamed name l.text = true ↔ name = l.text := by
  rw [isNamed, decide_eq_true_iff, l.canonical_toList]
  exact String.toList_inj

theorem SystemNode.group?_eq_some_iff {s : SystemNode} {name : String} {g : GroupNode} :
    s.group? name = some g ↔ g ∈ s.groups ∧ isNamed g.name name = true := by
  rw [group?, Option.map_eq_some_iff, groups, List.mem_map]
  constructor
  · rintro ⟨group, hfind, rfl⟩
    obtain ⟨hmem, hnamed⟩ :=
      (Ascending.find?_eq_some_iff fun _ _ => isNamed_unique).mp hfind
    exact ⟨⟨group, hmem, rfl⟩, hnamed⟩
  · rintro ⟨⟨group, hmem, rfl⟩, hnamed⟩
    exact ⟨group, (Ascending.find?_eq_some_iff fun _ _ => isNamed_unique).mpr ⟨hmem, hnamed⟩, rfl⟩

theorem SystemNode.parent_of_mem_groups {s : SystemNode} {g : GroupNode} (h : g ∈ s.groups) :
    g.parent = s := by
  obtain ⟨group, _, rfl⟩ := List.mem_map.mp h
  rfl

theorem GroupNode.id_eq_iff {g : GroupNode} {id : JitGroup} :
    g.id = id ↔ g.parent.environment.name = id.environment.text ∧
      g.parent.name = id.system.text ∧ g.name = id.name.text := by
  obtain ⟨environment, system, name⟩ := id
  rw [GroupNode.id, JitGroup.mk.injEq, ← Label.text_inj, ← Label.text_inj, ← Label.text_inj]
  rfl

namespace EnvironmentTree

theorem system?_eq_some_iff {e : EnvironmentTree} {name : String} {s : SystemNode} :
    e.system? name = some s ↔ s ∈ e.systemNodes ∧ isNamed s.name name = true := by
  rw [system?, Option.map_eq_some_iff, systemNodes, List.mem_map]
  constructor
  · rintro ⟨system, hfind, rfl⟩
    obtain ⟨hmem, hnamed⟩ :=
      (Ascending.find?_eq_some_iff fun _ _ => isNamed_unique).mp hfind
    exact ⟨⟨system, hmem, rfl⟩, hnamed⟩
  · rintro ⟨⟨system, hmem, rfl⟩, hnamed⟩
    exact ⟨system, (Ascending.find?_eq_some_iff fun _ _ => isNamed_unique).mpr ⟨hmem, hnamed⟩, rfl⟩

def groupNodes (e : EnvironmentTree) : List GroupNode :=
  e.systemNodes.flatMap SystemNode.groups

theorem mem_groupNodes_iff {e : EnvironmentTree} {g : GroupNode} :
    g ∈ e.groupNodes ↔ g.parent ∈ e.systemNodes ∧ g ∈ g.parent.groups := by
  rw [groupNodes, List.mem_flatMap]
  constructor
  · rintro ⟨s, hs, hg⟩
    obtain ⟨group, hgroup, rfl⟩ := List.mem_map.mp hg
    exact ⟨hs, List.mem_map.mpr ⟨group, hgroup, rfl⟩⟩
  · rintro ⟨hs, hg⟩
    exact ⟨g.parent, hs, hg⟩

theorem environment_of_mem_systemNodes {e : EnvironmentTree} {s : SystemNode}
    (h : s ∈ e.systemNodes) : s.environment = e := by
  obtain ⟨system, _, rfl⟩ := List.mem_map.mp h
  rfl

/-- A group is found under its id, and nothing else is. -/
theorem group?_eq_some_iff {e : EnvironmentTree} {id : JitGroup} {g : GroupNode} :
    e.group? id = some g ↔ g ∈ e.groupNodes ∧ g.id = id := by
  rw [group?, mem_groupNodes_iff, GroupNode.id_eq_iff]
  constructor
  · intro h
    split at h
    · rename_i henv
      obtain ⟨s, hsystem, hgroup⟩ := Option.bind_eq_some_iff.mp h
      obtain ⟨hs, hsname⟩ := system?_eq_some_iff.mp hsystem
      obtain ⟨hg, hgname⟩ := SystemNode.group?_eq_some_iff.mp hgroup
      obtain rfl := SystemNode.parent_of_mem_groups hg
      refine ⟨⟨hs, hg⟩, ?_, isNamed_label_iff.mp hsname, isNamed_label_iff.mp hgname⟩
      rw [environment_of_mem_systemNodes hs, henv]
    · cases h
  · rintro ⟨⟨hs, hg⟩, henv, hsname, hgname⟩
    rw [environment_of_mem_systemNodes hs] at henv
    rw [if_pos henv.symm]
    refine Option.bind_eq_some_iff.mpr ⟨g.parent, ?_, ?_⟩
    · exact system?_eq_some_iff.mpr ⟨hs, isNamed_label_iff.mpr hsname⟩
    · exact SystemNode.group?_eq_some_iff.mpr ⟨hg, isNamed_label_iff.mpr hgname⟩

end EnvironmentTree

end Policy

end AccessGovernance
