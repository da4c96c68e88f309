import Mathlib.Data.Option.Defs

/-! # Related results

Two optional results are related if both are absent, or both are there and related. What is made of
related results is related again.
-/

namespace AccessGovernance

variable {α α' β β' : Type} {r : α → α' → Prop} {o : Option α} {o' : Option α'}

theorem rel_refl {r : α → α → Prop} (h : ∀ x, r x x) : Option.Rel r o o := by
  cases o with
  | none => exact .none
  | some x => exact .some (h x)

theorem rel_imp {r' : α → α' → Prop} (h : Option.Rel r o o') (hr : ∀ x y, r x y → r' x y) :
    Option.Rel r' o o' := by
  cases h with
  | none => exact .none
  | some h => exact .some (hr _ _ h)

theorem rel_map {r' : β → β' → Prop} {f : α → β} {g : α' → β'} (h : Option.Rel r o o')
    (hr : ∀ x y, r x y → r' (f x) (g y)) : Option.Rel r' (o.map f) (o'.map g) := by
  cases h with
  | none => exact .none
  | some h => exact .some (hr _ _ h)

theorem rel_of_rel_map {r' : β → β' → Prop} {f : α → β} {g : α' → β'}
    (h : Option.Rel r' (o.map f) (o'.map g)) : Option.Rel (fun x y => r' (f x) (g y)) o o' := by
  cases o with
  | none =>
    cases o' with
    | none => exact .none
    | some y => cases h
  | some x =>
    cases o' with
    | none => cases h
    | some y =>
      cases h with
      | some h => exact .some h

theorem rel_bind {r' : β → β' → Prop} {f : α → Option β} {g : α' → Option β'}
    (h : Option.Rel r o o') (hr : ∀ x y, r x y → Option.Rel r' (f x) (g y)) :
    Option.Rel r' (o.bind f) (o'.bind g) := by
  cases h with
  | none => exact .none
  | some h => exact hr _ _ h

end AccessGovernance
