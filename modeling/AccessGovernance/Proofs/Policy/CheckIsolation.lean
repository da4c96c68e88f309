import AccessGovernance.Proofs.Expression.Dependence
import AccessGovernance.Proofs.Policy.CheckOutcomes

/-! # What a check cannot see

A check depends on the values of its declared properties and on the entries of the context that its
expression reads. Whatever else a request holds, an entry `input` of the context included, changes
nothing, and no value of an input takes the place of an entry of the context.
-/

namespace AccessGovernance

theorem Declared.add_congr {inputs inputs' : List (String × Json)} {p : Property}
    (h : inputs.lookup p.name = inputs'.lookup p.name) (d : Declared) :
    add inputs d p = add inputs' d p := by
  simp only [add, h]

theorem Declared.foldlM_add_congr {inputs inputs' : List (String × Json)} {asked : List Property}
    (h : ∀ p ∈ asked, inputs.lookup p.name = inputs'.lookup p.name) (d : Declared) :
    asked.foldlM (add inputs) d = asked.foldlM (add inputs') d := by
  induction asked generalizing d with
  | nil => rfl
  | cons p rest ih =>
    obtain ⟨hp, hrest⟩ := List.forall_mem_cons.mp h
    rw [List.foldlM_cons, List.foldlM_cons, add_congr hp]
    exact bind_congr fun d => ih hrest d

namespace Constraint

/-- The constraint has an expression, and a path in it begins with this name. -/
def Reads (c : Constraint) (name : String) : Prop :=
  ∃ text asked e, c.rule = .expression text asked ∧ Expression.ofText text = .ok e ∧ e.Reads name

/-- The requests agree on the declared inputs and on what the expression reads of the context. -/
structure SeesAlike (c : Constraint) (i i' : CheckInput) : Prop where
  inputs : ∀ p ∈ c.properties, i.inputs.lookup p.name = i'.inputs.lookup p.name
  context : ∀ name, c.Reads name → name ≠ "input" → i.context.lookup name = i'.context.lookup name

variable {c : Constraint} {i i' : CheckInput}

theorem check_congr (h : c.SeesAlike i i') : c.check i = c.check i' := by
  unfold check
  rw [Declared.foldlM_add_congr h.inputs]
  refine bind_congr fun declared => ?_
  cases hrule : c.rule with
  | expiry => rfl
  | expression text asked =>
    cases htext : Expression.ofText text with
    | error cause => simp only [htext]
    | ok e =>
      have hevaluate : e.evaluate (.object (Json.putField "input" (.object declared.values)
          i.context)) = e.evaluate (.object (Json.putField "input" (.object declared.values)
          i'.context)) := by
        apply Expression.evaluate_congr
        intro name hname
        rw [Json.get?, Json.get?, Json.lookup_putField, Json.lookup_putField]
        by_cases hinput : name = "input"
        · rw [if_pos hinput, if_pos hinput]
        · rw [if_neg hinput, if_neg hinput]
          exact h.context name ⟨text, asked, e, hrule, htext, hname⟩ hinput
      simp only [htext, hevaluate]

theorem seesAlike_withInput {name : String} (h : ∀ p ∈ c.properties, p.name ≠ name)
    (value : Json) : c.SeesAlike (i.withInput name value) i where
  inputs p hp := (Json.lookup_putField _ _ _ _).trans (if_neg (h p hp))
  context _ _ _ := rfl

theorem seesAlike_withContext (value : Json) : c.SeesAlike (i.withContext "input" value) i where
  inputs _ _ := rfl
  context _ _ hinput := (Json.lookup_putField _ _ _ _).trans (if_neg hinput)

/-- Requests in which a check sees the same have the same result. It does not see inputs that are not
declared, nor an entry of the context that has the name `input`; and if it is passed, its expression
holds where all other entries are those of the context, whatever the inputs are called. -/
theorem check_isolation (c : Constraint) (i : CheckInput) :
    (∀ i', c.SeesAlike i i' → c.check i = c.check i') ∧
    (∀ name value, (∀ p ∈ c.properties, p.name ≠ name) →
      c.check (i.withInput name value) = c.check i) ∧
    (∀ value, c.check (i.withContext "input" value) = c.check i) ∧
    ∀ text asked e, c.rule = .expression text asked → Expression.ofText text = .ok e →
      c.check i = .ok true → ∃ seen, e.evaluate seen = .ok true ∧
        seen.get? "input" = some (.ofFields (inputFields asked i.inputs)) ∧
        ∀ name, name ≠ "input" → seen.get? name = i.context.lookup name := by
  refine ⟨fun _ => check_congr, fun name value h => ?_, fun value => ?_, ?_⟩
  · exact check_congr (seesAlike_withInput h value)
  · exact check_congr (seesAlike_withContext value)
  · intro text asked e hrule htext hpassed
    obtain ⟨e', htext', hholds⟩ := (isOutcome_check hrule i).exists_evaluate_exposed hpassed
    obtain rfl := Except.ok.inj (htext.symm.trans htext')
    refine ⟨exposed asked i, hholds, ?_, fun name hname => ?_⟩
    · exact (get?_exposed asked i "input").trans (if_pos rfl)
    · exact (get?_exposed asked i name).trans (if_neg hname)

end Constraint

end AccessGovernance
