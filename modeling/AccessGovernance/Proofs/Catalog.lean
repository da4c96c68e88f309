import AccessGovernance.Catalog
import AccessGovernance.Proofs.Policy.Authorization
import AccessGovernance.Proofs.Policy.Lookup

/-! # Listings and look-ups of the catalog

What a subject finds by name is what the subject is listed, at both levels, and this is what the
subject may view. A policy that the subject may not view might as well not be there: look-ups have
the same results where it was taken away.
-/

namespace AccessGovernance

open Std

/-- The list has those of the given things that are shown, by ascending name, and a text finds the
one on the list whose name it has in canonical form. -/
structure IsListing {α : Type} (name : α → String) (given : List α) (shown : α → Prop)
    (listed : List α) (find : String → Option α) : Prop where
  mem_iff : ∀ a, a ∈ listed ↔ a ∈ given ∧ shown a
  ascending : (listed.map name).Pairwise (· < ·)
  find_iff : ∀ text a, find text = some a ↔
    a ∈ listed ∧ Text.canonical text.toList = (name a).toList

theorem filter_map_filter {α β : Type} {f : α → β} {p : α → Bool} {q : β → Bool} {o : Option α}
    (h : ∀ a ∈ o, q (f a) = p a) : ((o.filter p).map f).filter q = (o.filter p).map f := by
  cases o with
  | none => rfl
  | some a =>
    rw [Option.filter_some]
    split
    case isTrue hp => exact Option.filter_some_pos ((h a rfl).trans hp)
    case isFalse => rfl

namespace Policy

theorem SystemNode.pairwise_name_groups (s : SystemNode) :
    (s.groups.map GroupNode.name).Pairwise (· < ·) := by
  rw [groups, List.map_map]
  exact s.system.groups.pairwise_name

theorem EnvironmentTree.pairwise_name_systemNodes (e : EnvironmentTree) :
    (e.systemNodes.map SystemNode.name).Pairwise (· < ·) := by
  rw [systemNodes, List.map_map]
  exact e.systems.pairwise_name

end Policy

namespace SystemView

def name (v : SystemView) : String :=
  v.node.name

theorem isListing_groups (v : SystemView) :
    IsListing Policy.GroupNode.name v.node.groups (fun g => v.shows g = true) v.groups v.group? where
  mem_iff g := by rw [groups, List.mem_filter]
  ascending := v.node.pairwise_name_groups.sublist (List.filter_sublist.map _)
  find_iff text g := by
    rw [group?, Option.filter_eq_some_iff, Policy.SystemNode.group?_eq_some_iff, groups,
      List.mem_filter, Policy.isNamed_iff, and_right_comm]

end SystemView

namespace Catalog

variable {σ : Type} {c : Catalog σ}

theorem isListing_systems (c : Catalog σ) :
    IsListing SystemView.name (c.environment.policy.systemNodes.map c.view)
      (fun v => c.shows v.node = true) c.systems c.system? where
  mem_iff v := by
    rw [systems, List.mem_map, List.mem_map]
    constructor
    · rintro ⟨s, hs, rfl⟩
      obtain ⟨hmem, hshown⟩ := List.mem_filter.mp hs
      exact ⟨⟨s, hmem, rfl⟩, hshown⟩
    · rintro ⟨⟨s, hmem, rfl⟩, hshown⟩
      exact ⟨s, List.mem_filter.mpr ⟨hmem, hshown⟩, rfl⟩
  ascending := by
    rw [systems, List.map_map]
    exact c.environment.policy.pairwise_name_systemNodes.sublist (List.filter_sublist.map _)
  find_iff text v := by
    rw [system?, Option.map_eq_some_iff, systems, List.mem_map]
    simp only [Option.filter_eq_some_iff, Policy.EnvironmentTree.system?_eq_some_iff,
      List.mem_filter, Policy.isNamed_iff]
    constructor
    · rintro ⟨s, ⟨⟨hmem, hnamed⟩, hshown⟩, rfl⟩
      exact ⟨⟨s, ⟨hmem, hshown⟩, rfl⟩, hnamed⟩
    · rintro ⟨⟨s, ⟨hmem, hshown⟩, rfl⟩, hnamed⟩
      exact ⟨s, ⟨⟨hmem, hnamed⟩, hshown⟩, rfl⟩

/-! ## What is hidden -/

/-- A system without the groups that the subject may not view. -/
def visibleSystem (c : Catalog σ) (s : Policy.SystemTree) : Policy.SystemTree :=
  let node : Policy.SystemNode := ⟨c.environment.policy, s⟩
  ⟨s.header, s.groups.filter fun g => (c.view node).shows ⟨node, g⟩⟩

theorem name_visibleSystem (c : Catalog σ) (s : Policy.SystemTree) :
    (c.visibleSystem s).name = s.name :=
  rfl

def visiblePolicy (c : Catalog σ) : Policy.EnvironmentTree :=
  let e := c.environment.policy
  ⟨e.header, (e.systems.filter fun s => c.shows ⟨e, s⟩).map c.visibleSystem c.name_visibleSystem⟩

/-- The catalog of the environment in which there is nothing that the subject may not view. -/
def withoutHidden (c : Catalog σ) : Catalog σ :=
  { c with environment := { c.environment with policy := c.visiblePolicy } }

/-- What the catalog without the hidden policies has in the place of a system. -/
def visibleNode (c : Catalog σ) (s : Policy.SystemNode) : Policy.SystemNode :=
  ⟨c.visiblePolicy, c.visibleSystem s.system⟩

theorem shows_of_mem_withoutHidden {s : Policy.SystemNode}
    (h : s ∈ c.withoutHidden.environment.policy.systemNodes) :
    c.withoutHidden.shows s = true ∧
      ∀ g ∈ s.groups, (c.withoutHidden.view s).shows g = true := by
  obtain ⟨_, hmem, rfl⟩ := List.mem_map.mp h
  obtain ⟨system, hsystem, rfl⟩ := List.mem_map.mp hmem
  obtain ⟨-, hshown⟩ := List.mem_filter.mp hsystem
  refine ⟨(Policy.Node.isAllowedAt_of_headers rfl _ _ _).trans hshown, fun g hg => ?_⟩
  obtain ⟨group, hgroup, rfl⟩ := List.mem_map.mp hg
  obtain ⟨-, hshown⟩ := List.mem_filter.mp hgroup
  exact (Policy.Node.isAllowedAt_of_headers rfl _ _ _).trans hshown

theorem system?_visiblePolicy (c : Catalog σ) (name : String) :
    c.visiblePolicy.system? name =
      ((c.environment.policy.system? name).filter c.shows).map c.visibleNode := by
  have hfind : (c.visiblePolicy.systems.toList.find? fun s => Policy.isNamed s.name name) =
      ((c.environment.policy.systems.toList.find? fun s => Policy.isNamed s.name name).filter
        fun s => c.shows ⟨c.environment.policy, s⟩).map c.visibleSystem := by
    rw [← Ascending.find?_filter _ _ fun _ _ => Policy.isNamed_unique]
    exact Ascending.find?_map _ c.name_visibleSystem fun n => Policy.isNamed n name
  rw [Policy.EnvironmentTree.system?, hfind, Policy.EnvironmentTree.system?, Option.filter_map,
    Option.map_map, Option.map_map]
  rfl

theorem system?_withoutHidden (c : Catalog σ) (name : String) :
    c.withoutHidden.system? name =
      (c.system? name).map fun v => c.withoutHidden.view (c.visibleNode v.node) := by
  have hfound : c.withoutHidden.environment.policy.system? name = _ := c.system?_visiblePolicy name
  have hshown : ∀ s ∈ c.environment.policy.system? name,
      c.withoutHidden.shows (c.visibleNode s) = c.shows s := by
    intro s hs
    obtain ⟨hmem, -⟩ := Policy.EnvironmentTree.system?_eq_some_iff.mp hs
    obtain ⟨system, -, rfl⟩ := List.mem_map.mp hmem
    exact Policy.Node.isAllowedAt_of_headers rfl _ _ _
  rw [system?, hfound, filter_map_filter hshown, system?, Option.map_map, Option.map_map]
  rfl

theorem exists_view_of_system?_eq_some {name : String} {v : SystemView}
    (h : c.system? name = some v) : ∃ system, v = c.view ⟨c.environment.policy, system⟩ := by
  obtain ⟨hmem, -⟩ := (c.isListing_systems.find_iff name v).mp h
  obtain ⟨hgiven, -⟩ := (c.isListing_systems.mem_iff v).mp hmem
  obtain ⟨s, hs, rfl⟩ := List.mem_map.mp hgiven
  obtain ⟨system, -, rfl⟩ := List.mem_map.mp hs
  exact ⟨system, rfl⟩

theorem group?_withoutHidden {system : String} {v : SystemView} (h : c.system? system = some v)
    (name : String) : (c.withoutHidden.view (c.visibleNode v.node)).group? name =
      (v.group? name).map fun g => ⟨c.visibleNode v.node, g.group⟩ := by
  obtain ⟨tree, rfl⟩ := exists_view_of_system?_eq_some h
  let s : Policy.SystemNode := ⟨c.environment.policy, tree⟩
  have hfind : ((c.visibleSystem tree).groups.toList.find? fun g => Policy.isNamed g.name name) =
      (tree.groups.toList.find? fun g => Policy.isNamed g.name name).filter fun g =>
        (c.view s).shows ⟨s, g⟩ :=
    Ascending.find?_filter _ _ fun _ _ => Policy.isNamed_unique
  have hgroup : (c.withoutHidden.view (c.visibleNode s)).node.group? name = _ :=
    congrArg (Option.map (Policy.GroupNode.mk (c.visibleNode s))) hfind
  have hshown : ∀ g, (c.withoutHidden.view (c.visibleNode s)).shows ⟨c.visibleNode s, g⟩ =
      (c.view s).shows ⟨s, g⟩ :=
    fun _ => Policy.Node.isAllowedAt_of_headers rfl _ _ _
  change (c.withoutHidden.view (c.visibleNode s)).group? name = ((c.view s).group? name).map _
  rw [SystemView.group?, hgroup, filter_map_filter fun g _ => hshown g, SystemView.group?,
    Policy.SystemNode.group?, Option.filter_map, Option.map_map]
  rfl

/-- What a subject finds of a system by name: what stands at it and at its environment. -/
def seenSystem (c : Catalog σ) (name : String) : Option (List Policy.Header) :=
  (c.system? name).map fun v => (Policy.Node.system v.node).headers

/-- What a subject finds of a group by the names of its system and of itself. -/
def seenGroup (c : Catalog σ) (system group : String) : Option (List Policy.Header) :=
  ((c.system? system).bind fun v => v.group? group).map fun g => (Policy.Node.group g).headers

theorem seenSystem_withoutHidden (c : Catalog σ) (name : String) :
    c.withoutHidden.seenSystem name = c.seenSystem name := by
  rw [seenSystem, seenSystem, system?_withoutHidden, Option.map_map]
  refine Option.map_congr fun v hv => ?_
  obtain ⟨system, rfl⟩ := exists_view_of_system?_eq_some hv
  rfl

theorem seenGroup_withoutHidden (c : Catalog σ) (system group : String) :
    c.withoutHidden.seenGroup system group = c.seenGroup system group := by
  rw [seenGroup, seenGroup, system?_withoutHidden]
  cases hv : c.system? system with
  | none => rfl
  | some v =>
    rw [Option.map_some, Option.bind_some, Option.bind_some, group?_withoutHidden hv,
      Option.map_map]
    refine Option.map_congr fun g hg => ?_
    obtain ⟨found, rfl⟩ := exists_view_of_system?_eq_some hv
    obtain ⟨hfound, -⟩ := Option.filter_eq_some_iff.mp hg
    have hmem : g ∈ (c.view ⟨c.environment.policy, found⟩).node.groups :=
      (Policy.SystemNode.group?_eq_some_iff.mp hfound).1
    obtain ⟨g, -, rfl⟩ := List.mem_map.mp hmem
    rfl

/-- What a subject is listed and finds of systems and groups is what the subject may view of the
policy, by ascending name, and each is found under its name alone. A policy in which there is
nothing that is hidden from the subject gives the same look-ups. -/
theorem lookups_agree_with_listings (c : Catalog σ) :
    IsListing SystemView.name (c.environment.policy.systemNodes.map c.view)
        (fun v => (Policy.Node.system v.node).isAllowedAt c.subject .view c.now = true)
        c.systems c.system? ∧
      (∀ v ∈ c.systems, IsListing Policy.GroupNode.name v.node.groups
        (fun g => (Policy.Node.group g).isAllowedAt c.subject .view c.now = true)
        v.groups v.group?) ∧
      (∀ s ∈ c.withoutHidden.environment.policy.systemNodes, c.withoutHidden.shows s = true ∧
        ∀ g ∈ s.groups, (c.withoutHidden.view s).shows g = true) ∧
      (∀ system, c.withoutHidden.seenSystem system = c.seenSystem system) ∧
      ∀ system group, c.withoutHidden.seenGroup system group = c.seenGroup system group := by
  refine ⟨c.isListing_systems, fun v hv => ?_, fun _ => shows_of_mem_withoutHidden,
    c.seenSystem_withoutHidden, c.seenGroup_withoutHidden⟩
  obtain ⟨s, -, rfl⟩ := List.mem_map.mp hv
  exact (c.view s).isListing_groups

end Catalog

end AccessGovernance
