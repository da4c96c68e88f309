import AccessGovernance.Proofs.Policy.Inheritance
import AccessGovernance.Proofs.Policy.Siblings

/-! # Policies and their siblings

What applies at a policy depends on its own header and on the headers above it. The other systems of
its environment and the other groups of its system neither change this nor get in the way of looking
the policy up.
-/

namespace AccessGovernance

namespace Policy

variable {e s : Header} {g : Group}

namespace Node

/-- The same is decided about everybody at all times, and the same constraints apply. -/
structure HaveSameEffect (n n' : Node) : Prop where
  isAllowedAt : ∀ subject required t,
    n.isAllowedAt subject required t = n'.isAllowedAt subject required t
  constraints : ∀ class', n.constraints class' = n'.constraints class'

theorem constraints_eq_firstOfEachName_headers {n : Node} {class' : ConstraintClass} :
    n.constraints class' = firstOfEachName [] (n.headers.flatMap fun h => h.constraints class') := by
  rw [headers, List.flatMap_map]
  rfl

theorem haveSameEffect_of_headers {n n' : Node} (h : n.headers = n'.headers) :
    HaveSameEffect n n' where
  isAllowedAt := isAllowedAt_of_headers h
  constraints class' := by
    rw [constraints_eq_firstOfEachName_headers, constraints_eq_firstOfEachName_headers, h]

end Node

open Node (HaveSameEffect haveSameEffect_of_headers)

/-! ## Children that were given -/

section Given

variable {systems : List SystemTree} {groups : List Group} {system : SystemTree}
  {environment : EnvironmentTree} {text : String}

theorem SystemTree.header_of_make (h : make s groups = .ok system) : system.header = s := by
  obtain ⟨-, rfl⟩ := gather_eq_ok_iff.mp h
  rfl

theorem EnvironmentTree.header_of_make (h : make e systems = .ok environment) :
    environment.header = e := by
  obtain ⟨-, rfl⟩ := gather_eq_ok_iff.mp h
  rfl

theorem SystemNode.group?_of_make (h : SystemTree.make s groups = .ok system) (hg : g ∈ groups)
    (htext : Text.canonical text.toList = g.name.toList) :
    SystemNode.group? ⟨environment, system⟩ text = some ⟨⟨environment, system⟩, g⟩ := by
  obtain ⟨hnodup, rfl⟩ := gather_eq_ok_iff.mp h
  have hindex := isIndex_ofList hnodup (GroupNode.mk ⟨environment, ⟨s, .ofList groups⟩⟩)
  exact (hindex.find_eq_iff text _).mpr ⟨g, hg, rfl, htext⟩

theorem EnvironmentTree.system?_of_make (h : make e systems = .ok environment)
    (hsystem : system ∈ systems) (htext : Text.canonical text.toList = system.name.toList) :
    environment.system? text = some ⟨environment, system⟩ := by
  obtain ⟨hnodup, rfl⟩ := gather_eq_ok_iff.mp h
  have hindex := isIndex_ofList hnodup (SystemNode.mk ⟨e, .ofList systems⟩)
  exact (hindex.find_eq_iff text _).mpr ⟨system, hsystem, rfl, htext⟩

end Given

/-! ## Two environments -/

/-- The environment was made under the header `e` with any systems. One of them was made under the
header `s` with any groups, and `g` is one of these. -/
inductive IsMadeWith (e s : Header) (g : Group) (environment : EnvironmentTree) : Prop
  | make {systems : List SystemTree} {groups : List Group} {system : SystemTree}
      (henvironment : EnvironmentTree.make e systems = .ok environment)
      (hsystem : system ∈ systems) (hmake : SystemTree.make s groups = .ok system)
      (hg : g ∈ groups) : IsMadeWith e s g environment

/-- The system and the group are found under every text with their names as canonical forms, and the
group under its id. -/
structure Finds (environment : EnvironmentTree) (e s : Header) (g : Group) (system : SystemNode)
    (group : GroupNode) : Prop where
  system? : ∀ text, Text.canonical text.toList = s.name.text.toList →
    environment.system? text = some system
  group? : ∀ text, Text.canonical text.toList = g.name.toList → system.group? text = some group
  id : environment.group? ⟨e.name.label, s.name.label, g.header.name.label⟩ = some group
  header : system.system.header = s
  group : group.group = g

theorem IsMadeWith.exists_finds {environment : EnvironmentTree} (h : IsMadeWith e s g environment) :
    environment.header = e ∧ ∃ system : SystemTree,
      Finds environment e s g ⟨environment, system⟩ ⟨⟨environment, system⟩, g⟩ := by
  obtain @⟨systems, groups, system, henvironment, hsystem, hmake, hg⟩ := h
  obtain rfl := EnvironmentTree.header_of_make henvironment
  obtain rfl := SystemTree.header_of_make hmake
  have hsystem? : ∀ text, Text.canonical text.toList = system.header.name.text.toList →
      environment.system? text = some ⟨environment, system⟩ := fun _ =>
    EnvironmentTree.system?_of_make henvironment hsystem
  have hgroup? : ∀ text, Text.canonical text.toList = g.name.toList →
      SystemNode.group? ⟨environment, system⟩ text = some ⟨⟨environment, system⟩, g⟩ := fun _ =>
    SystemNode.group?_of_make hmake hg
  refine ⟨rfl, system, hsystem?, hgroup?, ?_, rfl, rfl⟩
  have hlisted := EnvironmentTree.system?_eq_some_iff.mp
    (hsystem? _ system.header.name.label.canonical_toList)
  have hlistedGroup := SystemNode.group?_eq_some_iff.mp
    (hgroup? _ g.header.name.label.canonical_toList)
  exact EnvironmentTree.group?_eq_some_iff.mpr
    ⟨EnvironmentTree.mem_groupNodes_iff.mpr ⟨hlisted.1, hlistedGroup.1⟩, rfl⟩

/-- Two environments may have any other systems and groups: where they have a header, a system
header below it and a group below that in common, these are found in both and have the same effect
in both. -/
theorem haveSameEffect_of_isMadeWith {environment environment' : EnvironmentTree}
    (h : IsMadeWith e s g environment) (h' : IsMadeWith e s g environment') :
    HaveSameEffect (.environment environment) (.environment environment') ∧
    ∃ (system system' : SystemNode) (group group' : GroupNode),
      Finds environment e s g system group ∧ Finds environment' e s g system' group' ∧
      HaveSameEffect (.system system) (.system system') ∧
      HaveSameEffect (.group group) (.group group') := by
  obtain ⟨he, system, hfinds⟩ := h.exists_finds
  obtain ⟨he', system', hfinds'⟩ := h'.exists_finds
  have henvironment : environment.header = environment'.header := he.trans he'.symm
  have hsystem : system.header = system'.header := hfinds.header.trans hfinds'.header.symm
  refine ⟨haveSameEffect_of_headers ?_, _, _, _, _, hfinds, hfinds', haveSameEffect_of_headers ?_,
    haveSameEffect_of_headers ?_⟩
  · exact congrArg (fun h => [h]) henvironment
  · exact congrArg₂ (fun s e => [s, e]) hsystem henvironment
  · exact congrArg₂ (fun s e => [g.header, s, e]) hsystem henvironment

/-- The second environment has one more system and its shop has one more group, with names that begin
like those of the others. -/
theorem haveSameEffect_of_isMadeWith_shop :
    ∃ (e s : Header) (g : Group) (environment environment' : EnvironmentTree),
      IsMadeWith e s g environment ∧ IsMadeWith e s g environment' ∧
      environment.groupNodes.length = 1 ∧ environment'.groupNodes.length = 2 ∧
      HaveSameEffect (.environment environment) (.environment environment') ∧
      ∃ (system system' : SystemNode) (group group' : GroupNode),
        Finds environment e s g system group ∧ Finds environment' e s g system' group' ∧
        HaveSameEffect (.system system) (.system system') ∧
        HaveSameEffect (.group group) (.group group') := by
  let joinable (display : String) (clean : isClean display.toList = true) : Header :=
    ⟨⟨display, clean⟩, "", some [⟨.userClass .external, .allow, .join⟩], ⟨[], .nil⟩, ⟨[], .nil⟩⟩
  let e := joinable "prod" (by decide)
  let s := joinable "shop" (by decide)
  let g : Group := ⟨joinable "admins" (by decide)⟩
  let other : Group := ⟨joinable "Admins2" (by decide)⟩
  let alone : SystemTree := ⟨s, .ofList [g]⟩
  let both : SystemTree := ⟨s, .ofList [other, g]⟩
  let empty : SystemTree := ⟨joinable "Shop-test" (by decide), .ofList []⟩
  have h : IsMadeWith e s g ⟨e, .ofList [alone]⟩ := by
    have hsystem : alone ∈ [alone] := List.mem_cons_self
    have hg : g ∈ [g] := List.mem_cons_self
    exact .make (gather_eq_ok_iff.mpr ⟨by decide +kernel, rfl⟩) hsystem
      (gather_eq_ok_iff.mpr ⟨by decide +kernel, rfl⟩) hg
  have h' : IsMadeWith e s g ⟨e, .ofList [empty, both]⟩ := by
    have hsystem : both ∈ [empty, both] := List.mem_cons_of_mem _ List.mem_cons_self
    have hg : g ∈ [other, g] := List.mem_cons_of_mem _ List.mem_cons_self
    exact .make (gather_eq_ok_iff.mpr ⟨by decide +kernel, rfl⟩) hsystem
      (gather_eq_ok_iff.mpr ⟨by decide +kernel, rfl⟩) hg
  exact ⟨e, s, g, _, _, h, h', by decide +kernel, by decide +kernel,
    haveSameEffect_of_isMadeWith h h'⟩

end Policy

end AccessGovernance
