import AccessGovernance.Proofs.Identity.Email
import AccessGovernance.Proofs.Identity.JitGroup

/-! # Reading back the text of principals

A text is read as a principal of the kind that it names before its first colon, whatever the value
after the colon is made of, or as none. The text of a principal has its value trimmed after the
colon and is read as that principal, so principals with one text are equal.
-/

namespace AccessGovernance

namespace PrincipalKind

variable {k l : PrincipalKind} {s name : List Char}

theorem lowerName_inj :
    k.name.toList.map Char.toLower = l.name.toList.map Char.toLower ↔ k = l := by
  cases k <;> cases l <;> decide

theorem ofChars?_eq_some_iff :
    ofChars? s = some k ↔ s.map Char.toLower = k.name.toList.map Char.toLower := by
  rw [ofChars?]
  constructor
  · intro h
    have hlower := List.find?_some h
    exact (of_decide_eq_true hlower).symm
  · intro h
    cases hl : all.find? fun l => l.name.toList.map Char.toLower = s.map Char.toLower with
    | none =>
      have hk := List.find?_eq_none.mp hl k (by cases k <;> decide)
      exact absurd (decide_eq_true h.symm) hk
    | some l =>
      have hlower := List.find?_some hl
      rw [lowerName_inj.mp ((of_decide_eq_true hlower).trans h)]

/-- Between its blank ends the text is the name of the kind, in any case of ASCII letters. -/
def IsNamedBy (k : PrincipalKind) (name : List Char) : Prop :=
  (Text.trim name).map Char.toLower = k.name.toList.map Char.toLower

theorem IsNamedBy.eq_iff (h : k.IsNamedBy name) : l.IsNamedBy name ↔ l = k := by
  rw [← lowerName_inj, IsNamedBy, h]
  exact eq_comm

theorem trim_name (k : PrincipalKind) : Text.trim k.name.toList = k.name.toList := by
  cases k <;> decide

theorem colon_not_mem_name (k : PrincipalKind) : ':' ∉ k.name.toList := by
  cases k <;> decide

theorem isNamedBy_name (k : PrincipalKind) : k.IsNamedBy k.name.toList := by
  rw [IsNamedBy, trim_name]

end PrincipalKind

namespace PrincipalId

theorem typed?_append_cons {name : List Char} (hname : ':' ∉ name) (value : List Char) :
    typed? (name ++ ':' :: value) =
      if Text.trim value = [] then none
      else (PrincipalKind.ofChars? (Text.trim name)).map fun k => (k, Text.trim value) := by
  have hstart : ':' ∉ Text.trimStart name :=
    fun h => hname ((Text.trimStart_isSuffix name).subset h)
  have htrim : Text.trim (name ++ ':' :: value) =
      Text.trimStart name ++ ':' :: Text.trimEnd value :=
    Text.trim_append_cons (by decide) name value
  simp only [typed?, htrim, Text.cutFirst?_append hstart, Text.trim_trimStart, Text.trim_trimEnd]

theorem typed?_eq_none {s : List Char} (hs : ':' ∉ s) : typed? s = none := by
  have hcut : Text.cutFirst? ':' (Text.trim s) = none :=
    Text.cutFirst?_eq_none_iff.mpr fun hm => hs (Text.mem_of_mem_trim hm)
  rw [typed?, hcut]

theorem typed?_eq_some_iff {s v : List Char} {k : PrincipalKind} :
    typed? s = some (k, v) ↔ ∃ name value, s = name ++ ':' :: value ∧ ':' ∉ name ∧
      k.IsNamedBy name ∧ v = Text.trim value ∧ v ≠ [] := by
  constructor
  · intro h
    cases hcut : Text.cutFirst? ':' s with
    | none =>
      rw [typed?_eq_none (Text.cutFirst?_eq_none_iff.mp hcut)] at h
      cases h
    | some cut =>
      obtain ⟨name, value⟩ := cut
      obtain ⟨rfl, hname⟩ := Text.cutFirst?_eq_some_iff.mp hcut
      rw [typed?_append_cons hname] at h
      split at h
      · cases h
      · rename_i hvalue
        obtain ⟨k', hk, he⟩ := Option.map_eq_some_iff.mp h
        cases he
        exact ⟨name, value, rfl, hname, PrincipalKind.ofChars?_eq_some_iff.mp hk, rfl, hvalue⟩
  · rintro ⟨name, value, rfl, hname, hk, rfl, hvalue⟩
    rw [typed?_append_cons hname, if_neg hvalue, PrincipalKind.ofChars?_eq_some_iff.mpr hk]
    rfl

theorem kind_of_ofValue? {k : PrincipalKind} {s : List Char} {p : PrincipalId}
    (h : ofValue? k s = some p) : p.kind = k := by
  cases k <;>
  · obtain ⟨_, _, rfl⟩ := Option.map_eq_some_iff.mp h
    rfl

theorem ofText?_eq_some_iff {s : String} {p : PrincipalId} :
    ofText? s = some p ↔ ∃ name value, s.toList = name ++ ':' :: value ∧ ':' ∉ name ∧
      p.kind.IsNamedBy name ∧ Text.trim value ≠ [] ∧
        ofValue? p.kind (Text.trim value) = some p := by
  rw [ofText?, Option.bind_eq_some_iff]
  constructor
  · rintro ⟨⟨k, v⟩, htyped, hv⟩
    obtain ⟨name, value, hs, hname, hk, rfl, hne⟩ := typed?_eq_some_iff.mp htyped
    obtain rfl := kind_of_ofValue? hv
    exact ⟨name, value, hs, hname, hk, hne, hv⟩
  · rintro ⟨name, value, hs, hname, hk, hne, hv⟩
    exact ⟨(p.kind, Text.trim value),
      typed?_eq_some_iff.mpr ⟨name, value, hs, hname, hk, rfl, hne⟩, hv⟩

/-! ## Values -/

theorem value_ne_nil (p : PrincipalId) : p.value.toList ≠ [] := by
  cases p with
  | user u => exact u.email.toList_ne_nil
  | group g => exact g.email.toList_ne_nil
  | serviceAccount a => exact a.email.toList_ne_nil
  | jitGroup g => exact g.toList_text_ne_nil
  | userClass c => cases c <;> decide
  | domain d => exact d.toList_ne_nil

theorem trim_value (p : PrincipalId) : Text.trim p.value.toList = p.value.toList := by
  cases p with
  | user u => exact u.email.trim_toList
  | group g => exact g.email.trim_toList
  | serviceAccount a => exact a.email.trim_toList
  | jitGroup g => exact g.trim_toList_text
  | userClass c => cases c <;> decide
  | domain d => exact d.trim_toList

theorem ofValue?_value (p : PrincipalId) : ofValue? p.kind p.value.toList = some p := by
  cases p with
  | user u => simp [kind, value, ofValue?, User.ofText?, Email.ofText?_text]
  | group g => simp [kind, value, ofValue?, DirectoryGroup.ofText?, Email.ofText?_text]
  | serviceAccount a => simp [kind, value, ofValue?, ServiceAccount.ofText?, Email.ofText?_text]
  | jitGroup g => simp [kind, value, ofValue?, JitGroup.ofFields?_fields_text]
  | userClass c => cases c <;> decide +kernel
  | domain d => simp [kind, value, ofValue?, HostedDomain.ofChars?_toList]

theorem ofText?_text (p : PrincipalId) : ofText? p.text = some p := by
  refine ofText?_eq_some_iff.mpr ⟨p.kind.name.toList, p.value.toList, by simp [text],
    p.kind.colon_not_mem_name, p.kind.isNamedBy_name, ?_, ?_⟩
  · rw [p.trim_value]
    exact p.value_ne_nil
  · rw [p.trim_value]
    exact p.ofValue?_value

theorem text_inj {p q : PrincipalId} : p.text = q.text ↔ p = q := by
  refine ⟨fun h => ?_, congrArg text⟩
  have hread := p.ofText?_text
  rw [h, q.ofText?_text] at hread
  exact (Option.some.inj hread).symm

/-- Every principal is what its text is read as, and no other principal has that text. What is read
from a text is of the only kind that is named before the first colon. -/
theorem ofText?_text_kind :
    (∀ p : PrincipalId, ofText? p.text = some p) ∧
    (∀ p q : PrincipalId, p.text = q.text ↔ p = q) ∧
    ∀ s p, ofText? s = some p → ∃ name value, s.toList = name ++ ':' :: value ∧ ':' ∉ name ∧
      ∀ k : PrincipalKind, k.IsNamedBy name ↔ k = p.kind := by
  refine ⟨ofText?_text, fun _ _ => text_inj, fun s p h => ?_⟩
  obtain ⟨name, value, hs, hname, hkind, _⟩ := ofText?_eq_some_iff.mp h
  exact ⟨name, value, hs, hname, fun k => hkind.eq_iff⟩

end PrincipalId

theorem JitGroup.ofText?_append (j : JitGroup) : ofText? ("jitgroup:" ++ j.text) = some j := by
  have hread : PrincipalId.ofText? ("jitgroup:" ++ j.text) = some (.jitGroup j) :=
    PrincipalId.ofText?_text (.jitGroup j)
  rw [ofText?, hread]
  rfl

end AccessGovernance
