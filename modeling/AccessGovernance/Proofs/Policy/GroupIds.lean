import AccessGovernance.Proofs.Identity.PrincipalText
import AccessGovernance.Proofs.Policy.Lookup
import Mathlib.Data.List.Nodup

/-! # The ids of the groups of an environment

The id of a group is read from the names that its policies were made with, before these were
trimmed and put in lower case, and it is read back from its own text. In an environment ids and
groups determine each other.
-/

namespace AccessGovernance

namespace Policy

theorem firstRepeated?_eq_none_iff {seen names : List String} :
    firstRepeated? seen names = none ↔ names.Nodup ∧ ∀ n ∈ names, n ∉ seen := by
  refine ⟨nodup_of_firstRepeated?, ?_⟩
  induction names generalizing seen with
  | nil => exact fun _ => rfl
  | cons name rest ih =>
    rintro ⟨hnodup, hseen⟩
    obtain ⟨hname, hrest⟩ := List.nodup_cons.mp hnodup
    rw [firstRepeated?, if_neg (hseen name List.mem_cons_self)]
    refine ih ⟨hrest, fun n hn hmem => ?_⟩
    rcases List.mem_cons.mp hmem with rfl | hmem
    · exact hname hn
    · exact hseen n (List.mem_cons_of_mem name hn) hmem

/-! ## Names -/

theorem Name.display_of_ofText {raw : String} {n : Name} (h : ofText raw = .ok n) :
    n.display.toList = Text.trim raw.toList := by
  simp only [ofText] at h
  split at h
  · cases h
    exact String.toList_ofList
  · split at h <;> cases h

theorem Name.ofText_display (n : Name) : ofText n.display = .ok n := by
  have htrim : String.ofList (Text.trim n.display.toList) = n.display := by
    rw [n.trim_display, String.ofList_toList]
  unfold ofText
  simp only [htrim, n.clean, dite_true]

theorem Name.canonical_of_ofText {raw : String} {n : Name} (h : ofText raw = .ok n) :
    Text.canonical raw.toList = n.label.text.toList := by
  rw [Text.canonical, ← display_of_ofText h, ← n.trim_display]
  exact n.canonical_display

namespace Header

/-- The header was made under the name and was given its access list and constraints after that. -/
inductive IsMadeUnder (name : String) : Header → Prop
  | make {description : String} {h : Header} (hmake : make name description = .ok h) :
      IsMadeUnder name h
  | withAcl {h : Header} (hh : IsMadeUnder name h) (acl : AccessList) :
      IsMadeUnder name (h.withAcl acl)
  | withConstraints {h h' : Header} (hh : IsMadeUnder name h) {class' : ConstraintClass}
      {constraints : List Constraint} (hwith : h.withConstraints class' constraints = .ok h') :
      IsMadeUnder name h'

theorem name_of_withConstraints {h h' : Header} {class' : ConstraintClass}
    {constraints : List Constraint} (hwith : h.withConstraints class' constraints = .ok h') :
    h'.name = h.name := by
  unfold withConstraints at hwith
  split at hwith
  · cases hwith
  · cases class' <;> cases hwith <;> rfl

theorem withConstraints_toList (h : Header) (class' : ConstraintClass) (cs : Constraints) :
    h.withConstraints class' cs.toList = .ok (match class' with
      | .join => { h with join := cs }
      | .approve => { h with approve := cs }) := by
  have hnone : firstRepeated? [] (cs.toList.map Constraint.name) = none :=
    firstRepeated?_eq_none_iff.mpr ⟨cs.nodup, by simp⟩
  unfold withConstraints
  split
  · rename_i name hsome
    rw [hnone] at hsome
    cases hsome
  · cases class' <;> rfl

theorem IsMadeUnder.ofText_name {name : String} {h : Header} (hh : IsMadeUnder name h) :
    Name.ofText name = .ok h.name := by
  -- only `make` sets the name
  induction hh with
  | make hmake =>
    rw [Header.make] at hmake
    cases hname : Name.ofText name with
    | error e =>
      rw [hname] at hmake
      cases hmake
    | ok n =>
      rw [hname] at hmake
      cases hmake
      rfl
  | withAcl _ _ ih => exact ih
  | withConstraints _ hwith ih => rw [name_of_withConstraints hwith, ih]

/-- Every header was made under some name, if only the one that it displays. -/
theorem isMadeUnder_display (h : Header) : IsMadeUnder h.name.display h := by
  obtain ⟨name, description, acl, join, approve⟩ := h
  have hmade : make name.display description =
      .ok ⟨name, description, none, ⟨[], .nil⟩, ⟨[], .nil⟩⟩ := by
    rw [make, Name.ofText_display]
    rfl
  have hacl : IsMadeUnder name.display ⟨name, description, acl, ⟨[], .nil⟩, ⟨[], .nil⟩⟩ := by
    cases acl with
    | none => exact .make hmade
    | some acl => exact (IsMadeUnder.make hmade).withAcl acl
  exact (hacl.withConstraints (withConstraints_toList _ .join join)).withConstraints
    (withConstraints_toList _ .approve approve)

end Header

/-! ## Ids -/

theorem SystemNode.nodup_groups (s : SystemNode) : s.groups.Nodup := by
  have hmk : Function.Injective (GroupNode.mk s) := fun _ _ h => (GroupNode.mk.inj h).2
  exact s.system.groups.nodup_toList.map hmk

namespace EnvironmentTree

variable {e : EnvironmentTree}

theorem nodup_systemNodes (e : EnvironmentTree) : e.systemNodes.Nodup := by
  have hmk : Function.Injective (SystemNode.mk e) := fun _ _ h => (SystemNode.mk.inj h).2
  exact e.systems.nodup_toList.map hmk

theorem nodup_groupNodes (e : EnvironmentTree) : e.groupNodes.Nodup := by
  -- a node has its ancestors in it, so nodes of different systems differ whatever their names
  refine List.nodup_flatMap.mpr ⟨fun s _ => s.nodup_groups, ?_⟩
  refine e.nodup_systemNodes.imp fun {s s'} hne g hg hg' => hne ?_
  rw [← SystemNode.parent_of_mem_groups hg, SystemNode.parent_of_mem_groups hg']

theorem eq_of_id_eq {g g' : GroupNode} (hg : g ∈ e.groupNodes) (hg' : g' ∈ e.groupNodes)
    (h : g.id = g'.id) : g = g' := by
  have hfound : e.group? g.id = some g := group?_eq_some_iff.mpr ⟨hg, rfl⟩
  rw [h, group?_eq_some_iff.mpr ⟨hg', rfl⟩] at hfound
  exact (Option.some.inj hfound).symm

theorem ofChars?_of_isMadeUnder {g : GroupNode} {environment system name : String}
    (he : Header.IsMadeUnder environment g.parent.environment.header)
    (hs : Header.IsMadeUnder system g.parent.system.header)
    (hn : Header.IsMadeUnder name g.group.header) :
    JitGroup.ofChars? environment.toList system.toList name.toList = some g.id :=
  JitGroup.ofChars?_eq_some_iff.mpr ⟨Name.canonical_of_ofText he.ofText_name,
    Name.canonical_of_ofText hs.ofText_name, Name.canonical_of_ofText hn.ofText_name⟩

/-- Groups and ids determine each other, and an id is what the names of the policies and its own
text are read as. -/
theorem groupNodes_id (e : EnvironmentTree) :
    (∀ g ∈ e.groupNodes, e.group? g.id = some g) ∧
    (∀ id g, e.group? id = some g → g ∈ e.groupNodes ∧ g.id = id) ∧
    (e.groupNodes.map GroupNode.id).Nodup ∧
    ∀ g ∈ e.groupNodes,
      (∀ environment system name : String, Header.IsMadeUnder environment e.header →
        Header.IsMadeUnder system g.parent.system.header →
          Header.IsMadeUnder name g.group.header →
            JitGroup.ofChars? environment.toList system.toList name.toList = some g.id) ∧
      JitGroup.ofText? ("jitgroup:" ++ g.id.text) = some g.id := by
  refine ⟨fun g hg => ?_, fun id g h => ?_, ?_, fun g hg => ⟨?_, ?_⟩⟩
  · exact group?_eq_some_iff.mpr ⟨hg, rfl⟩
  · exact group?_eq_some_iff.mp h
  · exact e.nodup_groupNodes.map_on fun g hg g' hg' h => eq_of_id_eq hg hg' h
  · intro environment system name he hs hn
    rw [← environment_of_mem_systemNodes (mem_groupNodes_iff.mp hg).1] at he
    exact ofChars?_of_isMadeUnder he hs hn
  · exact g.id.ofText?_append

end EnvironmentTree

end Policy

end AccessGovernance
