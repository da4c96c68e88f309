import AccessGovernance.Text.Canonical
import AccessGovernance.Text.Split

/-! # Just-in-time groups

A just-in-time group is named by three labels: those of its environment, of its system within it
and its own. A label is a nonempty canonical text without dots, so the three labels joined by dots
can be read back.
-/

namespace AccessGovernance

/-- A nonempty name without dots, trimmed and in lower case. -/
structure Label where
  text : String
  canonical : Text.canonicalWithout? '.' text.toList = some text.toList
deriving DecidableEq

namespace Label

def ofChars? (s : List Char) : Option Label :=
  match h : Text.canonicalWithout? '.' s with
  | none => none
  | some t => some ⟨String.ofList t, by simpa using Text.canonicalWithout?_idem h⟩

theorem toList_ne_nil (l : Label) : l.text.toList ≠ [] :=
  (Text.canonicalWithout?_eq_some_iff.1 l.canonical).2.1

theorem dot_not_mem (l : Label) : '.' ∉ l.text.toList :=
  (Text.canonicalWithout?_eq_some_iff.1 l.canonical).2.2

theorem canonical_toList (l : Label) : Text.canonical l.text.toList = l.text.toList :=
  (Text.canonicalWithout?_eq_some_iff.1 l.canonical).1.symm

theorem ofChars?_toList (l : Label) : ofChars? l.text.toList = some l := by
  unfold ofChars?
  split
  · rename_i h
    simp [l.canonical] at h
  · rename_i t h
    rw [l.canonical] at h
    obtain rfl := Option.some.inj h
    simp

end Label

structure JitGroup where
  environment : Label
  system : Label
  name : Label
deriving DecidableEq

namespace JitGroup

def ofChars? (environment system name : List Char) : Option JitGroup := do
  let environment ← Label.ofChars? environment
  let system ← Label.ofChars? system
  let name ← Label.ofChars? name
  return ⟨environment, system, name⟩

def ofFields? : List (List Char) → Option JitGroup
  | [environment, system, name] => ofChars? environment system name
  | _ => none

def text (g : JitGroup) : String :=
  g.environment.text ++ "." ++ g.system.text ++ "." ++ g.name.text

theorem toList_text (g : JitGroup) :
    g.text.toList =
      g.environment.text.toList ++ '.' :: (g.system.text.toList ++ '.' :: g.name.text.toList) := by
  simp [text]

theorem fields_text (g : JitGroup) :
    Text.fields '.' g.text.toList =
      [g.environment.text.toList, g.system.text.toList, g.name.text.toList] := by
  rw [toList_text, Text.fields_append g.environment.dot_not_mem,
    Text.fields_append g.system.dot_not_mem, Text.fields_of_not_mem g.name.dot_not_mem]

theorem ofFields?_fields_text (g : JitGroup) :
    ofFields? (Text.fields '.' g.text.toList) = some g := by
  simp [fields_text, ofFields?, ofChars?, Label.ofChars?_toList]

theorem text_inj {g h : JitGroup} : g.text = h.text ↔ g = h := by
  refine ⟨fun e => ?_, congrArg _⟩
  have := ofFields?_fields_text g
  rw [e, ofFields?_fields_text h] at this
  exact (Option.some.inj this).symm

end JitGroup

end AccessGovernance
