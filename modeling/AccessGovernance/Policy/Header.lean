import AccessGovernance.Identity.JitGroup
import AccessGovernance.Policy.AccessControl
import AccessGovernance.Policy.Constraint

/-! # Policy headers

What policies of all levels have in common: a name, a description, perhaps an access-control list,
and constraints of each class. Names contain neither dots nor blanks, so their lower-case forms are
labels of just-in-time groups. Constraints of one class have different names.
-/

namespace AccessGovernance

namespace Policy

/-- The first name that occurs a second time, or for the first time if it is among `seen`. -/
def firstRepeated? (seen : List String) : List String → Option String
  | [] => none
  | name :: rest => if name ∈ seen then some name else firstRepeated? (name :: seen) rest

theorem nodup_of_firstRepeated? {seen names : List String} (h : firstRepeated? seen names = none) :
    names.Nodup ∧ ∀ n ∈ names, n ∉ seen := by
  induction names generalizing seen with
  | nil => simp
  | cons name rest ih =>
    unfold firstRepeated? at h
    split at h
    · simp at h
    · rename_i hn
      obtain ⟨h1, h2⟩ := ih h
      refine ⟨List.nodup_cons.2 ⟨fun hm => h2 name hm (by simp), h1⟩, ?_⟩
      intro n hm
      rcases List.mem_cons.1 hm with rfl | hm
      · exact hn
      · exact fun hs => h2 n hm (by simp [hs])

/-- Whether a text has characters, and no dots and blanks among them. -/
def isClean (s : List Char) : Bool :=
  s ≠ [] && s.all fun c => c ≠ '.' && !Text.isBlank c

theorem isClean_iff {s : List Char} :
    isClean s = true ↔ s ≠ [] ∧ '.' ∉ s ∧ ∀ c ∈ s, Text.isBlank c = false := by
  simp only [isClean, Bool.and_eq_true, List.all_eq_true, decide_eq_true_eq, Bool.not_eq_true']
  exact ⟨fun ⟨h, hs⟩ => ⟨h, fun hm => (hs _ hm).1 rfl, fun c hc => (hs c hc).2⟩,
    fun ⟨h, hd, hs⟩ => ⟨h, fun c hc => ⟨fun e => hd (e ▸ hc), hs c hc⟩⟩⟩

structure Name where
  display : String
  clean : isClean display.toList = true
deriving DecidableEq

namespace Name

def ofText (s : String) : Except PolicyError Name :=
  let display := String.ofList (Text.trim s.toList)
  if h : isClean display.toList = true then .ok ⟨display, h⟩
  else if display = "" then .error .blankName
  else .error (.invalidName display)

/-- The form in which names are compared. -/
def text (n : Name) : String :=
  String.ofList (Text.lower n.display.toList)

theorem trim_display (n : Name) : Text.trim n.display.toList = n.display.toList :=
  Text.trim_of_no_blank (isClean_iff.1 n.clean).2.2

theorem canonical_display (n : Name) : Text.canonical n.display.toList = n.text.toList := by
  rw [Text.canonical, n.trim_display, text, String.toList_ofList]

theorem canonicalWithout?_text (n : Name) :
    Text.canonicalWithout? '.' n.text.toList = some n.text.toList := by
  refine Text.canonicalWithout?_eq_some_iff.2 ⟨?_, ?_, ?_⟩
  · rw [← n.canonical_display, Text.canonical_canonical]
  · rw [text, String.toList_ofList, Ne, Text.lower_eq_nil_iff]
    exact (isClean_iff.1 n.clean).1
  · rw [text, String.toList_ofList, Text.mem_lower_iff (by decide)]
    exact (isClean_iff.1 n.clean).2.1

def label (n : Name) : Label :=
  ⟨n.text, n.canonicalWithout?_text⟩

end Name

/-- Constraints of one class, with different names. -/
structure Constraints where
  toList : List Constraint
  nodup : (toList.map Constraint.name).Nodup
deriving DecidableEq

structure Header where
  name : Name
  description : String
  acl : Option AccessList
  join : Constraints
  approve : Constraints
deriving DecidableEq

namespace Header

/-- A policy that neither decides about permissions nor has constraints. -/
def make (name description : String) : Except PolicyError Header :=
  (Name.ofText name).map fun name =>
    { name := name
      description := description
      acl := none
      join := ⟨[], .nil⟩
      approve := ⟨[], .nil⟩ }

def withAcl (h : Header) (acl : AccessList) : Header :=
  { h with acl := some acl }

def withConstraints (h : Header) (class' : ConstraintClass) (constraints : List Constraint) :
    Except PolicyError Header :=
  match hn : firstRepeated? [] (constraints.map Constraint.name) with
  | some name => .error (.duplicateConstraint h.name.text name)
  | none =>
      let cs : Constraints := ⟨constraints, (nodup_of_firstRepeated? hn).1⟩
      match class' with
      | .join => .ok { h with join := cs }
      | .approve => .ok { h with approve := cs }

def constraints (h : Header) : ConstraintClass → List Constraint
  | .join => h.join.toList
  | .approve => h.approve.toList

/-- The constraints of that class are replaced, and those of the other one stay as they are. -/
theorem constraints_of_withConstraints {h h' : Header} {class' : ConstraintClass}
    {cs : List Constraint} (hwith : h.withConstraints class' cs = .ok h')
    (other : ConstraintClass) :
    h'.constraints other = if other = class' then cs else h.constraints other := by
  unfold withConstraints at hwith
  split at hwith
  · cases hwith
  · cases class' <;> cases hwith <;> cases other <;> rfl

end Header

end Policy

end AccessGovernance
