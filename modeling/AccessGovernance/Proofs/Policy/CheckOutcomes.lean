import AccessGovernance.Policy.Check

/-! # What a check comes to

A check with an expression looks at its inputs first. The first declared property that is required
and missing, or has a value of another type, is the error, whatever was out of range before it. If
there is none, an integer out of range makes the check fail before the expression is read. Only then
the expression counts: its value, or why it has none.
-/

namespace AccessGovernance

namespace PropertyType

/-- The values of a type. Durations are integers like others, and integers have at most 64 bits. -/
inductive Admits : PropertyType → Json → Prop
  | string (s : String) : Admits string (.string s)
  | bool (b : Bool) : Admits bool (.bool b)
  | int {n : Int} (h : fitsSigned64 n = true) : Admits int (.integer n)
  | duration {n : Int} (h : fitsSigned64 n = true) : Admits duration (.integer n)

def expectation : PropertyType → String
  | string => "expected a string"
  | bool => "expected a boolean"
  | int | duration => "expected an integer"

end PropertyType

namespace Property

variable {p : Property} {inputs : List (String × Json)} {value : Json} {e : EvaluationError}

def Excludes (p : Property) (value : Json) : Prop :=
  ∃ n, value = .integer n ∧
    ((∃ least, p.min = some least ∧ n < least) ∨ ∃ most, p.max = some most ∧ most < n)

/-- The property is required and missing, or it has a value of another type. -/
inductive IsFaulty (inputs : List (String × Json)) (p : Property) : EvaluationError → Prop
  | missing (h : inputs.lookup p.name = none) (hrequired : p.required = true) :
      IsFaulty inputs p (.missingInput p.name)
  | mistyped {value : Json} (h : inputs.lookup p.name = some value)
      (htype : ¬ p.type.Admits value) :
      IsFaulty inputs p (.invalidInput p.name p.type.expectation)

def IsSound (inputs : List (String × Json)) (p : Property) : Prop :=
  ∀ e, ¬ p.IsFaulty inputs e

def IsOutOfRange (inputs : List (String × Json)) (p : Property) : Prop :=
  ∃ value, inputs.lookup p.name = some value ∧ p.Excludes value

/-- The property may be missing and is, or it has a value of its type and in its range. -/
inductive IsMet (inputs : List (String × Json)) (p : Property) : Prop
  | absent (h : inputs.lookup p.name = none) (hoptional : p.required = false)
  | present {value : Json} (h : inputs.lookup p.name = some value) (htype : p.type.Admits value)
      (hrange : ¬ p.Excludes value)

theorem isMet_of_isSound (hsound : p.IsSound inputs) (hrange : ¬ p.IsOutOfRange inputs) :
    p.IsMet inputs := by
  cases h : inputs.lookup p.name with
  | none =>
    refine .absent h ?_
    rw [← Bool.not_eq_true]
    exact fun hrequired => hsound _ (.missing h hrequired)
  | some value =>
    refine .present h ?_ fun hexcludes => hrange ⟨value, h, hexcludes⟩
    exact Classical.byContradiction fun htype => hsound _ (.mistyped h htype)

theorem isSound_of_admits (h : inputs.lookup p.name = some value) (htype : p.type.Admits value) :
    p.IsSound inputs := by
  rintro _ (⟨hnone, _⟩ | ⟨hsome, hmistyped⟩)
  · rw [h] at hnone
    cases hnone
  · obtain rfl := Option.some.inj (h.symm.trans hsome)
    exact hmistyped htype

theorem excludes_integer_iff {n : Int} :
    p.Excludes (.integer n) ↔ (p.min.all (· ≤ n) && p.max.all (n ≤ ·)) = false := by
  have hmin : p.min.all (· ≤ n) = false ↔ ∃ least, p.min = some least ∧ n < least := by
    cases p.min <;> simp
  have hmax : p.max.all (n ≤ ·) = false ↔ ∃ most, p.max = some most ∧ most < n := by
    cases p.max <;> simp
  rw [Bool.and_eq_false_iff, hmin, hmax]
  constructor
  · rintro ⟨m, hm, hout⟩
    obtain rfl : n = m := by simpa [Json.integer] using hm
    exact hout
  · exact fun hout => ⟨n, rfl, hout⟩

theorem not_excludes (h : value.integer? = none) : ¬ p.Excludes value := by
  rintro ⟨n, rfl, _⟩
  cases h

theorem integer?_eq_some_iff {n : Int} : value.integer? = some n ↔ value = .integer n := by
  constructor
  · intro h
    unfold Json.integer? at h
    split at h
    · cases h
      rfl
    · cases h
  · rintro rfl
    rfl

theorem validate_of_admits (h : p.type.Admits value) :
    ∃ b, p.validate value = .ok b ∧ (b = false ↔ p.Excludes value) := by
  obtain ⟨name, displayName, type, required, min, max⟩ := p
  change type.Admits value at h
  cases h with
  | string s => exact ⟨true, rfl, by simp [not_excludes (rfl : (Json.string s).integer? = none)]⟩
  | bool b => exact ⟨true, rfl, by simp [not_excludes (rfl : (Json.bool b).integer? = none)]⟩
  | int hn => exact ⟨_, if_pos hn, excludes_integer_iff.symm⟩
  | duration hn => exact ⟨_, if_pos hn, excludes_integer_iff.symm⟩

theorem validate_of_not_admits (h : ¬ p.type.Admits value) :
    p.validate value = .error (.invalidInput p.name p.type.expectation) := by
  obtain ⟨name, displayName, type, required, min, max⟩ := p
  change ¬ type.Admits value at h
  cases type with
  | string =>
    cases value with
    | string s => exact absurd (.string s) h
    | _ => rfl
  | bool =>
    cases value with
    | bool b => exact absurd (.bool b) h
    | _ => rfl
  | int | duration =>
    simp only [validate, PropertyType.expectation]
    cases hvalue : value.integer? with
    | none => rfl
    | some n =>
      refine if_neg fun hn => ?_
      rw [integer?_eq_some_iff.mp hvalue] at h
      apply h
      constructor
      exact hn

end Property

/-! ## The inputs in their declared order -/

/-- The object with a field for each declared property, which is null where the input is missing. -/
def inputFields (asked : List Property) (inputs : List (String × Json)) : List (String × Json) :=
  asked.map fun p => (p.name, (inputs.lookup p.name).getD .null)

theorem lookup_foldl_inputFields (asked : List Property) (inputs fields : List (String × Json))
    (name : String) :
    ((inputFields asked inputs).foldl (fun fs f => Json.putField f.1 f.2 fs) fields).lookup name =
      if name ∈ asked.map Property.name then some ((inputs.lookup name).getD .null)
      else fields.lookup name := by
  induction asked generalizing fields with
  | nil => rfl
  | cons p rest ih =>
    rw [inputFields, List.map_cons, List.foldl_cons]
    refine (ih _).trans ?_
    rw [Json.lookup_putField, List.map_cons]
    by_cases hrest : name ∈ rest.map Property.name
    · rw [if_pos hrest, if_pos (List.mem_cons_of_mem _ hrest)]
    · rw [if_neg hrest]
      by_cases hp : name = p.name
      · subst hp
        rw [if_pos rfl, if_pos List.mem_cons_self]
      · rw [if_neg hp, if_neg (by simp [hp, hrest])]

theorem get?_ofFields_inputFields (asked : List Property) (inputs : List (String × Json))
    (name : String) : (Json.ofFields (inputFields asked inputs)).get? name =
      if name ∈ asked.map Property.name then some ((inputs.lookup name).getD .null) else none :=
  lookup_foldl_inputFields asked inputs [] name

namespace Declared

variable {inputs : List (String × Json)} {d : Declared} {p : Property} {e : EvaluationError}
  {asked before after : List Property}

theorem add_of_isFaulty (h : p.IsFaulty inputs e) : add inputs d p = .error e := by
  cases h with
  | missing hnone hrequired => simp only [add, hnone, hrequired, if_true]
  | mistyped hsome htype =>
    simp only [add, hsome, Property.validate_of_not_admits htype]
    rfl

theorem add_of_isSound (h : p.IsSound inputs) :
    ∃ b, add inputs d p = .ok ⟨d.inRange && b,
        Json.putField p.name ((inputs.lookup p.name).getD .null) d.values⟩ ∧
      (b = false ↔ p.IsOutOfRange inputs) := by
  cases hvalue : inputs.lookup p.name with
  | none =>
    have hoptional : p.required ≠ true := fun hrequired => h _ (.missing hvalue hrequired)
    refine ⟨true, ?_, ?_⟩
    · simp only [add, hvalue, if_neg hoptional, Bool.and_true]
      rfl
    · simp [Property.IsOutOfRange, hvalue]
  | some value =>
    have hadmits : p.type.Admits value :=
      Classical.byContradiction fun htype => h _ (.mistyped hvalue htype)
    obtain ⟨b, hb, hrange⟩ := Property.validate_of_admits hadmits
    refine ⟨b, ?_, ?_⟩
    · simp only [add, hvalue, hb]
      rfl
    · simpa [Property.IsOutOfRange, hvalue] using hrange

theorem foldlM_add_of_isFaulty (hbefore : ∀ q ∈ before, q.IsSound inputs)
    (h : p.IsFaulty inputs e) : (before ++ p :: after).foldlM (add inputs) d = .error e := by
  induction before generalizing d with
  | nil =>
    rw [List.nil_append, List.foldlM_cons, add_of_isFaulty h]
    rfl
  | cons q before ih =>
    obtain ⟨hq, hbefore⟩ := List.forall_mem_cons.mp hbefore
    obtain ⟨b, hadd, _⟩ := add_of_isSound (d := d) hq
    rw [List.cons_append, List.foldlM_cons, hadd]
    exact ih hbefore

theorem foldlM_add_of_isSound (h : ∀ p ∈ asked, p.IsSound inputs) :
    ∃ b, asked.foldlM (add inputs) d = .ok ⟨d.inRange && b,
        (inputFields asked inputs).foldl (fun fs f => Json.putField f.1 f.2 fs) d.values⟩ ∧
      (b = false ↔ ∃ p ∈ asked, p.IsOutOfRange inputs) := by
  induction asked generalizing d with
  | nil => exact ⟨true, by rw [Bool.and_true]; rfl, by simp⟩
  | cons p rest ih =>
    obtain ⟨hp, hrest⟩ := List.forall_mem_cons.mp h
    obtain ⟨b, hadd, hb⟩ := add_of_isSound (d := d) hp
    obtain ⟨b', hfold, hb'⟩ := ih (d := ⟨_, _⟩) hrest
    refine ⟨b && b', ?_, ?_⟩
    · rw [List.foldlM_cons, hadd]
      refine hfold.trans ?_
      rw [Bool.and_assoc]
      rfl
    · simp only [List.mem_cons, exists_eq_or_imp, ← hb, ← hb']
      cases b <;> simp

end Declared

theorem Property.isSound_or_exists_isFaulty (inputs : List (String × Json))
    (asked : List Property) : (∀ p ∈ asked, p.IsSound inputs) ∨
      ∃ before p after e, asked = before ++ p :: after ∧ (∀ q ∈ before, q.IsSound inputs) ∧
        p.IsFaulty inputs e := by
  induction asked with
  | nil => exact .inl (List.forall_mem_nil _)
  | cons p rest ih =>
    by_cases hp : p.IsSound inputs
    · rcases ih with hrest | ⟨before, q, after, e, rfl, hbefore, hq⟩
      · exact .inl (List.forall_mem_cons.mpr ⟨hp, hrest⟩)
      · exact .inr ⟨p :: before, q, after, e, rfl, List.forall_mem_cons.mpr ⟨hp, hbefore⟩, hq⟩
    · obtain ⟨e, he⟩ := Classical.not_forall.mp hp
      exact .inr ⟨[], p, rest, e, rfl, List.forall_mem_nil _, Classical.not_not.mp he⟩

/-! ## Outcomes -/

namespace Constraint

variable {c : Constraint} {text : String} {asked : List Property} {input : CheckInput}
  {r : Except EvaluationError Bool}

/-- What an expression sees: the context, and all declared inputs under `input`. -/
def exposed (asked : List Property) (input : CheckInput) : Json :=
  .object (Json.putField "input" (.ofFields (inputFields asked input.inputs)) input.context)

theorem get?_exposed (asked : List Property) (input : CheckInput) (name : String) :
    (exposed asked input).get? name =
      if name = "input" then some (.ofFields (inputFields asked input.inputs))
      else input.context.lookup name :=
  Json.lookup_putField _ _ _ _

/-- What the check of an expression comes to. No two of the rules apply to the same inputs. -/
inductive IsOutcome (text : String) (asked : List Property) (input : CheckInput) :
    Except EvaluationError Bool → Prop
  /-- The first faulty property counts. -/
  | faulty {before after : List Property} {p : Property} {e : EvaluationError}
      (hasked : asked = before ++ p :: after) (hbefore : ∀ q ∈ before, q.IsSound input.inputs)
      (hp : p.IsFaulty input.inputs e) : IsOutcome text asked input (.error e)
  | outOfRange (hsound : ∀ p ∈ asked, p.IsSound input.inputs)
      (hrange : ∃ p ∈ asked, p.IsOutOfRange input.inputs) : IsOutcome text asked input (.ok false)
  | malformed {cause : Expression.Malformation} (hsound : ∀ p ∈ asked, p.IsSound input.inputs)
      (hrange : ∀ p ∈ asked, ¬ p.IsOutOfRange input.inputs)
      (htext : Expression.ofText text = .error cause) :
      IsOutcome text asked input (.error (.malformed cause))
  | evaluated {e : Expression} (hsound : ∀ p ∈ asked, p.IsSound input.inputs)
      (hrange : ∀ p ∈ asked, ¬ p.IsOutOfRange input.inputs)
      (htext : Expression.ofText text = .ok e) :
      IsOutcome text asked input (e.evaluate (exposed asked input))

theorem properties_of_expression (hrule : c.rule = .expression text asked) :
    c.properties = asked := by
  rw [properties, hrule]

theorem check_of_isOutOfRange (hrule : c.rule = .expression text asked)
    (hsound : ∀ p ∈ asked, p.IsSound input.inputs)
    (hrange : ∃ p ∈ asked, p.IsOutOfRange input.inputs) : c.check input = .ok false := by
  obtain ⟨b, hfold, hb⟩ := Declared.foldlM_add_of_isSound (d := ⟨true, []⟩) hsound
  obtain rfl := hb.mpr hrange
  rw [check, properties_of_expression hrule, hfold]
  rfl

theorem check_of_inRange (hrule : c.rule = .expression text asked)
    (hsound : ∀ p ∈ asked, p.IsSound input.inputs)
    (hrange : ∀ p ∈ asked, ¬ p.IsOutOfRange input.inputs) :
    c.check input =
      match Expression.ofText text with
      | .error cause => .error (.malformed cause)
      | .ok e => e.evaluate (exposed asked input) := by
  obtain ⟨b, hfold, hb⟩ := Declared.foldlM_add_of_isSound (d := ⟨true, []⟩) hsound
  have htrue : b = true := by
    rw [← Bool.not_eq_false, hb]
    rintro ⟨p, hp, hout⟩
    exact hrange p hp hout
  subst htrue
  rw [check, properties_of_expression hrule, hfold, hrule]
  rfl

theorem IsOutcome.check_eq (hrule : c.rule = .expression text asked)
    (h : IsOutcome text asked input r) : c.check input = r := by
  cases h with
  | faulty hasked hbefore hp =>
    rw [check, properties_of_expression hrule, hasked,
      Declared.foldlM_add_of_isFaulty hbefore hp]
    rfl
  | outOfRange hsound hrange => exact check_of_isOutOfRange hrule hsound hrange
  | malformed hsound hrange htext => rw [check_of_inRange hrule hsound hrange, htext]
  | evaluated hsound hrange htext => rw [check_of_inRange hrule hsound hrange, htext]

theorem exists_isOutcome (text : String) (asked : List Property) (input : CheckInput) :
    ∃ r, IsOutcome text asked input r := by
  rcases Property.isSound_or_exists_isFaulty input.inputs asked with
    hsound | ⟨before, p, after, e, hasked, hbefore, hp⟩
  · by_cases hrange : ∃ p ∈ asked, p.IsOutOfRange input.inputs
    · exact ⟨_, .outOfRange hsound hrange⟩
    · have hrange : ∀ p ∈ asked, ¬ p.IsOutOfRange input.inputs :=
        fun p hp hout => hrange ⟨p, hp, hout⟩
      cases htext : Expression.ofText text with
      | error cause => exact ⟨_, .malformed hsound hrange htext⟩
      | ok e => exact ⟨_, .evaluated hsound hrange htext⟩
  · exact ⟨_, .faulty hasked hbefore hp⟩

theorem isOutcome_check (hrule : c.rule = .expression text asked) (input : CheckInput) :
    IsOutcome text asked input (c.check input) := by
  obtain ⟨r, hr⟩ := exists_isOutcome text asked input
  rwa [hr.check_eq hrule]

theorem IsOutcome.exists_evaluate_exposed (h : IsOutcome text asked input r) (hr : r = .ok true) :
    ∃ e, Expression.ofText text = .ok e ∧ e.evaluate (exposed asked input) = .ok true := by
  cases h with
  | faulty => cases hr
  | outOfRange => cases hr
  | malformed => cases hr
  | evaluated _ _ htext => exact ⟨_, htext, hr⟩

theorem IsOutcome.isMet (h : IsOutcome text asked input r) (hr : r = .ok true) :
    ∀ p ∈ asked, p.IsMet input.inputs := by
  cases h with
  | faulty => cases hr
  | outOfRange => cases hr
  | malformed => cases hr
  | evaluated hsound hrange _ =>
    exact fun p hp => Property.isMet_of_isSound (hsound p hp) (hrange p hp)

/-- The outcome of a check is settled by the rules, in their order: a faulty input, an input out of
range, the expression. So a check that is passed has had all its inputs, of their types and in their
ranges. -/
theorem check_eq_iff_isOutcome (hrule : c.rule = .expression text asked) (input : CheckInput) :
    (∀ r, c.check input = r ↔ IsOutcome text asked input r) ∧
    (∀ name, (Json.ofFields (inputFields asked input.inputs)).get? name =
      if name ∈ asked.map Property.name then some ((input.inputs.lookup name).getD .null)
      else none) ∧
    (c.check input = .ok true → ∀ p ∈ asked, p.IsMet input.inputs) := by
  refine ⟨fun r => ⟨?_, fun h => h.check_eq hrule⟩, get?_ofFields_inputFields asked input.inputs,
    (isOutcome_check hrule input).isMet⟩
  rintro rfl
  exact isOutcome_check hrule input

namespace Sample

def days : Property :=
  ⟨"days", "Days", .int, true, some 1, some 30⟩

def urgent : Property :=
  ⟨"urgent", "Urgent", .bool, false, none, none⟩

/-- A check of two inputs whose expression is not complete. -/
def review : Constraint :=
  ⟨"review", "Review", .expression "input.days <" [days, urgent], by decide, by decide +kernel,
    rfl⟩

end Sample

/-- An input of another type is the error although one before it is out of range, and although there
is no expression to evaluate. -/
theorem check_of_mistyped_urgent :
    Sample.review.rule = .expression "input.days <" [Sample.days, Sample.urgent] ∧
    Sample.review.check ⟨[("days", .integer 99), ("urgent", .string "yes")], []⟩ =
      .error (.invalidInput "urgent" "expected a boolean") := by
  refine ⟨rfl, ((check_eq_iff_isOutcome rfl _).1 _).mpr ?_⟩
  have hdays : Sample.days.IsSound [("days", .integer 99), ("urgent", .string "yes")] :=
    Property.isSound_of_admits rfl (.int rfl)
  have hasked : [Sample.days, Sample.urgent] = [Sample.days] ++ Sample.urgent :: [] := rfl
  exact .faulty hasked (List.forall_mem_singleton.mpr hdays) (.mistyped rfl nofun)

end Constraint

end AccessGovernance
