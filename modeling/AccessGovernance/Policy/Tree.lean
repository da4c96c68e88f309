import AccessGovernance.Policy.Header

/-! # Policy trees

An environment has systems and a system has groups, each under a name that is unique among its
siblings whatever its case. Siblings are listed by ascending name. A node is a policy together with
the policies above it.
-/

namespace AccessGovernance

namespace Policy

open Std

structure Group where
  header : Header
deriving DecidableEq

def Group.name (g : Group) : String :=
  g.header.name.text

instance : TransCmp (compareOn Group.name) :=
  instTransCmpCompareOnOfTransOrd

structure SystemTree where
  header : Header
  groups : Ascending (compareOn Group.name)

def SystemTree.name (s : SystemTree) : String :=
  s.header.name.text

instance : TransCmp (compareOn SystemTree.name) :=
  instTransCmpCompareOnOfTransOrd

structure EnvironmentTree where
  header : Header
  systems : Ascending (compareOn SystemTree.name)

def EnvironmentTree.name (e : EnvironmentTree) : String :=
  e.header.name.text

/-- A system with these groups, unless two of them have one name. -/
def SystemTree.make (header : Header) (groups : List Group) : Except PolicyError SystemTree :=
  match firstRepeated? [] (groups.map Group.name) with
  | some name => .error (.duplicateName .group name)
  | none => .ok ⟨header, .ofList groups⟩

/-- An environment with these systems, unless two of them have one name. -/
def EnvironmentTree.make (header : Header) (systems : List SystemTree) :
    Except PolicyError EnvironmentTree :=
  match firstRepeated? [] (systems.map SystemTree.name) with
  | some name => .error (.duplicateName .system name)
  | none => .ok ⟨header, .ofList systems⟩

/-! ## Nodes -/

structure SystemNode where
  environment : EnvironmentTree
  system : SystemTree

structure GroupNode where
  parent : SystemNode
  group : Group

inductive Node
  | environment (environment : EnvironmentTree)
  | system (node : SystemNode)
  | group (node : GroupNode)

/-- Whether a policy of a given name is meant by a text. -/
def isNamed (name text : String) : Bool :=
  name.toList = Text.canonical text.toList

namespace SystemNode

def name (s : SystemNode) : String :=
  s.system.name

def groups (s : SystemNode) : List GroupNode :=
  s.system.groups.toList.map (GroupNode.mk s)

def group? (s : SystemNode) (name : String) : Option GroupNode :=
  (s.system.groups.toList.find? fun g => isNamed g.name name).map (GroupNode.mk s)

end SystemNode

namespace GroupNode

def name (g : GroupNode) : String :=
  g.group.name

def id (g : GroupNode) : JitGroup :=
  ⟨g.parent.environment.header.name.label, g.parent.system.header.name.label,
    g.group.header.name.label⟩

end GroupNode

namespace EnvironmentTree

def systemNodes (e : EnvironmentTree) : List SystemNode :=
  e.systems.toList.map (SystemNode.mk e)

def system? (e : EnvironmentTree) (name : String) : Option SystemNode :=
  (e.systems.toList.find? fun s => isNamed s.name name).map (SystemNode.mk e)

/-- The policy of a just-in-time group; there is none for groups of other environments. -/
def group? (e : EnvironmentTree) (id : JitGroup) : Option GroupNode :=
  if id.environment.text = e.name then
    (e.system? id.system.text).bind fun s => s.group? id.name.text
  else none

end EnvironmentTree

namespace Node

def header : Node → Header
  | environment e => e.header
  | system s => s.system.header
  | group g => g.group.header

def parent? : Node → Option Node
  | environment _ => none
  | system s => some (environment s.environment)
  | group g => some (system g.parent)

def ancestry : Node → List Node
  | environment e => [environment e]
  | system s => [system s, environment s.environment]
  | group g => [group g, system g.parent, environment g.parent.environment]

theorem ancestry_eq (n : Node) : n.ancestry = n :: (n.parent?.map ancestry).getD [] := by
  cases n <;> rfl

end Node

end Policy

end AccessGovernance
