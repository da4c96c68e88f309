import AccessGovernance.Expression.Evaluation

/-! # What the value of an expression depends on

An expression reads from its context the entries that its paths begin with, and nothing else. Two
contexts with the same entries there lead to the same value, or to the same error.
-/

namespace AccessGovernance

namespace Expression

/-- A path in the expression begins with this name. -/
inductive Reads (name : String) : Expression → Prop
  | path (keys : List String) : Reads name (.path name keys)
  | list {items : List Expression} {e : Expression} (he : e ∈ items) (h : Reads name e) :
      Reads name (.list items)
  | not {e : Expression} (h : Reads name e) : Reads name (.not e)
  | left {op : Operator} {l r : Expression} (h : Reads name l) : Reads name (.binary op l r)
  | right {op : Operator} {l r : Expression} (h : Reads name r) : Reads name (.binary op l r)
  | call {function : String} {args : List Expression} {e : Expression} (he : e ∈ args)
      (h : Reads name e) : Reads name (.call function args)

variable {context context' : Json}

mutual

theorem value_congr (e : Expression)
    (h : ∀ name, e.Reads name → context.get? name = context'.get? name) :
    value context e = value context' e := by
  match e with
  | .literal l => rfl
  | .path first keys => rw [value, value, follow, follow, h first (.path keys)]
  | .list items =>
    rw [value, value, values_congr items fun e he name hname => h name (.list he hname)]
  | .not operand => rw [value, value, value_congr operand fun name hname => h name (.not hname)]
  | .binary op left right =>
    rw [value, value, value_congr left fun name hname => h name (.left hname),
      value_congr right fun name hname => h name (.right hname)]
  | .call function args =>
    rw [value, value, values_congr args fun e he name hname => h name (.call he hname)]

theorem values_congr (es : List Expression)
    (h : ∀ e ∈ es, ∀ name, e.Reads name → context.get? name = context'.get? name) :
    values context es = values context' es := by
  match es with
  | [] => rfl
  | e :: rest =>
    obtain ⟨he, hrest⟩ := List.forall_mem_cons.mp h
    rw [values, values, value_congr e he, values_congr rest hrest]

end

theorem evaluate_congr {e : Expression}
    (h : ∀ name, e.Reads name → context.get? name = context'.get? name) :
    e.evaluate context = e.evaluate context' := by
  rw [evaluate, evaluate, value_congr e h]

end Expression

end AccessGovernance
