import AccessGovernance.Proofs.Policy.Lookup
import AccessGovernance.Proofs.Related
import Mathlib.Data.List.Forall2

/-! # Adding an entry to a policy

An entry is added anywhere in the list of the policy at a place of an environment. The policies keep
their names, so those of the new environment are found at the same places, and each differs from the
one before by the entry at most.
-/

namespace AccessGovernance

namespace AccessList

theorem mem_insertIdx_of_mem {acl : AccessList} {e entry : AccessEntry} (i : Nat) (h : e ∈ acl) :
    e ∈ acl.insertIdx i entry := by
  by_cases hi : i ≤ acl.length
  · exact (List.mem_insertIdx hi).mpr (.inr h)
  · rwa [List.insertIdx_of_length_lt (Nat.lt_of_not_le hi)]

theorem mem_of_mem_insertIdx {acl : AccessList} {e entry : AccessEntry} {i : Nat}
    (h : e ∈ acl.insertIdx i entry) : e = entry ∨ e ∈ acl := by
  by_cases hi : i ≤ acl.length
  · exact (List.mem_insertIdx hi).mp h
  · rw [List.insertIdx_of_length_lt (Nat.lt_of_not_le hi)] at h
    exact .inr h

end AccessList

namespace Policy

namespace Header

def entries (h : Header) : AccessList :=
  h.acl.getD []

/-- The header with an entry put before the `i`-th one of its list. It has a list then, also if it
had none. -/
def insertEntry (h : Header) (i : Nat) (entry : AccessEntry) : Header :=
  h.withAcl (h.entries.insertIdx i entry)

end Header

/-! ## Places -/

/-- Where a policy stands in an environment, by the names that it is looked up by. -/
inductive Place
  | environment
  | system (system : String)
  | group (system group : String)
deriving DecidableEq

def Node.place : Node → Place
  | environment _ => .environment
  | system s => .system s.name
  | group g => .group g.parent.name g.name

def EnvironmentTree.nodes (e : EnvironmentTree) : List Node :=
  .environment e :: (e.systemNodes.map .system ++ e.groupNodes.map .group)

def EnvironmentTree.node? (e : EnvironmentTree) : Place → Option Node
  | .environment => some (.environment e)
  | .system system => (e.system? system).map .system
  | .group system group => ((e.system? system).bind fun s => s.group? group).map .group

theorem EnvironmentTree.node?_place {e : EnvironmentTree} {n : Node} (h : n ∈ e.nodes) :
    e.node? n.place = some n := by
  have hnamed : ∀ name : Name, isNamed name.text name.text = true :=
    fun name => (isNamed_label_iff (l := name.label)).mpr rfl
  have hsystem : ∀ s ∈ e.systemNodes, e.system? s.name = some s :=
    fun s hs => EnvironmentTree.system?_eq_some_iff.mpr ⟨hs, hnamed s.system.header.name⟩
  rcases List.mem_cons.mp h with rfl | h
  · rfl
  · rcases List.mem_append.mp h with h | h
    · obtain ⟨s, hs, rfl⟩ := List.mem_map.mp h
      rw [Node.place, EnvironmentTree.node?, hsystem s hs]
      rfl
    · obtain ⟨g, hg, rfl⟩ := List.mem_map.mp h
      obtain ⟨hparent, hgroup⟩ := EnvironmentTree.mem_groupNodes_iff.mp hg
      have hfound : g.parent.group? g.name = some g :=
        SystemNode.group?_eq_some_iff.mpr ⟨hgroup, hnamed g.group.header.name⟩
      rw [Node.place, EnvironmentTree.node?, hsystem g.parent hparent, Option.bind_some, hfound]
      rfl

/-! ## Changes below a name -/

section Amend

variable {α : Type} {name : α → String} {text : String} {f : α → α}

def amendNamed (name : α → String) (text : String) (f : α → α) (x : α) : α :=
  if isNamed (name x) text then f x else x

theorem name_amendNamed (hf : ∀ x, name (f x) = name x) (x : α) :
    name (amendNamed name text f x) = name x := by
  rw [amendNamed]
  split
  · exact hf x
  · rfl

/-- The elements with the one changed that a text means. Its name stays as it is. -/
def amend (s : Ascending (compareOn name)) (text : String) (f : α → α)
    (hf : ∀ x, name (f x) = name x) : Ascending (compareOn name) where
  toList := s.toList.map (amendNamed name text f)
  ascending := by
    refine List.pairwise_map.mpr (s.ascending.imp fun hlt => ?_)
    rwa [compareOn, name_amendNamed hf, name_amendNamed hf]

theorem find?_amend {s : Ascending (compareOn name)} (hf : ∀ x, name (f x) = name x)
    (t : String) :
    ((amend s text f hf).toList.find? fun x => isNamed (name x) t) =
      (s.toList.find? fun x => isNamed (name x) t).map (amendNamed name text f) :=
  s.find?_map (name_amendNamed hf) fun n => isNamed n t

theorem find?_amend_self {s : Ascending (compareOn name)} (hf : ∀ x, name (f x) = name x) :
    ((amend s text f hf).toList.find? fun x => isNamed (name x) text) =
      (s.toList.find? fun x => isNamed (name x) text).map f := by
  rw [find?_amend hf]
  cases hx : s.toList.find? fun x => isNamed (name x) text with
  | none => rfl
  | some x => exact congrArg some (if_pos (List.find?_some hx))

end Amend

/-! ## Insertion -/

def Group.insertEntry (g : Group) (i : Nat) (entry : AccessEntry) : Group :=
  ⟨g.header.insertEntry i entry⟩

theorem Group.name_insertEntry (i : Nat) (entry : AccessEntry) (g : Group) :
    (g.insertEntry i entry).name = g.name :=
  rfl

namespace SystemTree

def insertEntry (s : SystemTree) (i : Nat) (entry : AccessEntry) : SystemTree :=
  ⟨s.header.insertEntry i entry, s.groups⟩

def insertGroupEntry (s : SystemTree) (group : String) (i : Nat) (entry : AccessEntry) :
    SystemTree :=
  ⟨s.header, amend s.groups group (fun g => g.insertEntry i entry) (Group.name_insertEntry i entry)⟩

theorem name_insertEntry (i : Nat) (entry : AccessEntry) (s : SystemTree) :
    (s.insertEntry i entry).name = s.name :=
  rfl

theorem name_insertGroupEntry (group : String) (i : Nat) (entry : AccessEntry) (s : SystemTree) :
    (s.insertGroupEntry group i entry).name = s.name :=
  rfl

end SystemTree

namespace EnvironmentTree

def insertEntry (e : EnvironmentTree) (i : Nat) (entry : AccessEntry) : Place → EnvironmentTree
  | .environment => ⟨e.header.insertEntry i entry, e.systems⟩
  | .system system =>
      ⟨e.header, amend e.systems system (fun s => s.insertEntry i entry)
        (SystemTree.name_insertEntry i entry)⟩
  | .group system group =>
      ⟨e.header, amend e.systems system (fun s => s.insertGroupEntry group i entry)
        (SystemTree.name_insertGroupEntry group i entry)⟩

end EnvironmentTree

section Insertion

variable {entry : AccessEntry} {i : Nat}

theorem SystemTree.find?_groups_insertGroupEntry (s : SystemTree) (group : String) :
    ((s.insertGroupEntry group i entry).groups.toList.find? fun g => isNamed g.name group) =
      (s.groups.toList.find? fun g => isNamed g.name group).map fun g => g.insertEntry i entry :=
  find?_amend_self (Group.name_insertEntry i entry)

namespace EnvironmentTree

theorem find?_systems_insertEntry_system (e : EnvironmentTree) (system : String) :
    ((e.insertEntry i entry (.system system)).systems.toList.find?
        fun s => isNamed s.name system) =
      (e.systems.toList.find? fun s => isNamed s.name system).map
        fun s => s.insertEntry i entry :=
  find?_amend_self (SystemTree.name_insertEntry i entry)

theorem find?_systems_insertEntry_group (e : EnvironmentTree) (system group : String) :
    ((e.insertEntry i entry (.group system group)).systems.toList.find?
        fun s => isNamed s.name system) =
      (e.systems.toList.find? fun s => isNamed s.name system).map
        fun s => s.insertGroupEntry group i entry :=
  find?_amend_self (SystemTree.name_insertGroupEntry group i entry)

theorem header_insertEntry (e : EnvironmentTree) (added : Place) :
    ((e.insertEntry i entry added).node? added).map Node.header =
      (e.node? added).map fun n => n.header.insertEntry i entry := by
  cases added with
  | environment => rfl
  | system system =>
    rw [node?, node?, system?, system?, find?_systems_insertEntry_system]
    cases e.systems.toList.find? fun s => isNamed s.name system <;> rfl
  | group system group =>
    rw [node?, node?, system?, system?, find?_systems_insertEntry_group]
    cases e.systems.toList.find? fun s => isNamed s.name system with
    | none => rfl
    | some s =>
      simp only [Option.map_some, Option.bind_some]
      rw [SystemNode.group?, SystemNode.group?, SystemTree.find?_groups_insertGroupEntry]
      cases s.groups.toList.find? fun g => isNamed g.name group <;> rfl

end EnvironmentTree

end Insertion

/-! ## Differences

At every level the policy that is looked up by a name is the one before, with the entry added or
without. -/

/-- The entry was added to the header, or nothing was. -/
inductive Header.Gains (entry : AccessEntry) (h : Header) : Header → Prop
  | nothing : Gains entry h h
  | entry (i : Nat) : Gains entry h (h.insertEntry i entry)

structure SystemTree.Gains (entry : AccessEntry) (s s' : SystemTree) : Prop where
  header : s.header.Gains entry s'.header
  groups : ∀ text, Option.Rel (fun g g' => g.header.Gains entry g'.header)
    (s.groups.toList.find? fun g => isNamed g.name text)
    (s'.groups.toList.find? fun g => isNamed g.name text)

structure EnvironmentTree.Gains (entry : AccessEntry) (e e' : EnvironmentTree) : Prop where
  header : e.header.Gains entry e'.header
  systems : ∀ text, Option.Rel (SystemTree.Gains entry)
    (e.systems.toList.find? fun s => isNamed s.name text)
    (e'.systems.toList.find? fun s => isNamed s.name text)

/-- The entry was added to some policies on the way to the root, and to no other list there. -/
def Node.Gains (entry : AccessEntry) (n n' : Node) : Prop :=
  List.Forall₂ (fun m m' => m.header.Gains entry m'.header) n.ancestry n'.ancestry

theorem Header.Gains.mem_entries {entry : AccessEntry} {h h' : Header}
    (hgains : h.Gains entry h') :
    (∀ e ∈ h.entries, e ∈ h'.entries) ∧ ∀ e ∈ h'.entries, e = entry ∨ e ∈ h.entries := by
  cases hgains with
  | nothing => exact ⟨fun _ => id, fun _ => .inr⟩
  | entry i =>
    exact ⟨fun _ => AccessList.mem_insertIdx_of_mem i, fun _ => AccessList.mem_of_mem_insertIdx⟩

section Rel

variable {α : Type} {r : α → α → Prop}

theorem rel_find?_amend {name : α → String} {s : Ascending (compareOn name)} {text : String}
    {f : α → α} (hrefl : ∀ x, r x x) (hr : ∀ x, r x (f x)) (hf : ∀ x, name (f x) = name x)
    (t : String) :
    Option.Rel r (s.toList.find? fun x => isNamed (name x) t)
      ((amend s text f hf).toList.find? fun x => isNamed (name x) t) := by
  have hamend : ∀ x, r x (amendNamed name text f x) := by
    intro x
    rw [amendNamed]
    split
    · exact hr x
    · exact hrefl x
  rw [find?_amend hf]
  cases s.toList.find? fun x => isNamed (name x) t with
  | none => exact .none
  | some x => exact .some (hamend x)

end Rel

section Gains

variable {entry : AccessEntry} {i : Nat}

namespace SystemTree

theorem Gains.refl (s : SystemTree) : s.Gains entry s :=
  ⟨.nothing, fun _ => rel_refl fun _ => .nothing⟩

theorem gains_insertEntry (s : SystemTree) : s.Gains entry (s.insertEntry i entry) :=
  ⟨.entry i, fun _ => rel_refl fun _ => .nothing⟩

theorem gains_insertGroupEntry (s : SystemTree) (group : String) :
    s.Gains entry (s.insertGroupEntry group i entry) := by
  have hgroup : ∀ g : Group, g.header.Gains entry (g.insertEntry i entry).header :=
    fun _ => .entry i
  exact ⟨.nothing, rel_find?_amend (fun _ => .nothing) hgroup (Group.name_insertEntry i entry)⟩

end SystemTree

namespace EnvironmentTree

theorem gains_insertEntry (e : EnvironmentTree) (place : Place) :
    e.Gains entry (e.insertEntry i entry place) := by
  cases place with
  | environment => exact ⟨.entry i, fun _ => rel_refl SystemTree.Gains.refl⟩
  | system system =>
    exact ⟨.nothing, rel_find?_amend SystemTree.Gains.refl SystemTree.gains_insertEntry
      (SystemTree.name_insertEntry i entry)⟩
  | group system group =>
    exact ⟨.nothing, rel_find?_amend SystemTree.Gains.refl (fun s => s.gains_insertGroupEntry group)
      (SystemTree.name_insertGroupEntry group i entry)⟩

theorem Gains.node? {e e' : EnvironmentTree} (h : e.Gains entry e') (place : Place) :
    Option.Rel (Node.Gains entry) (e.node? place) (e'.node? place) := by
  cases place with
  | environment => exact .some (.cons h.header .nil)
  | system system =>
    rw [EnvironmentTree.node?, EnvironmentTree.node?, system?, system?, Option.map_map,
      Option.map_map]
    exact rel_map (h.systems system) fun s s' hs => .cons hs.header (.cons h.header .nil)
  | group system group =>
    rw [EnvironmentTree.node?, EnvironmentTree.node?, system?, system?, Option.bind_map,
      Option.bind_map]
    have hgroup : ∀ s s' : SystemTree, s.Gains entry s' →
        Option.Rel (fun g g' => Node.Gains entry (.group g) (.group g'))
          (SystemNode.group? ⟨e, s⟩ group) (SystemNode.group? ⟨e', s'⟩ group) := by
      intro s s' hs
      exact rel_map (hs.groups group) fun g g' hg =>
        .cons hg (.cons hs.header (.cons h.header .nil))
    exact rel_map (rel_bind (h.systems system) hgroup) fun _ _ hnode => hnode

end EnvironmentTree

end Gains

end Policy

end AccessGovernance
