import AccessGovernance.Policy.Check

/-! # Limits on how long a membership lasts

How long a membership is to last is asked for in whole seconds, and both ends of the limit are cut
off to whole seconds before they are compared. At the upper end this changes nothing. At the lower
end it lets one number of seconds through that is too short, if the shortest time allowed is no
whole number of seconds: for a shortest time below one second, none at all.
-/

namespace AccessGovernance

namespace Duration

variable {d : Duration} {n : Int}

theorem le_wholeSeconds_iff (h : 0 < d.nanoseconds) :
    n ≤ d.wholeSeconds ↔ (ofSeconds n).nanoseconds ≤ d.nanoseconds := by
  rw [wholeSeconds, nanoseconds_ofSeconds, Int.tdiv_eq_ediv_of_nonneg (Int.le_of_lt h)]
  omega

theorem wholeSeconds_le_iff (h : 0 < d.nanoseconds) :
    d.wholeSeconds ≤ n ↔ d.nanoseconds < (ofSeconds (n + 1)).nanoseconds := by
  rw [wholeSeconds, nanoseconds_ofSeconds, Int.tdiv_eq_ediv_of_nonneg (Int.le_of_lt h)]
  omega

end Duration

namespace Constraint

variable {name displayName : String} {rule : ConstraintRule} {min max : Duration} {c : Constraint}
  {input : CheckInput} {n : Int}

theorem rule_of_make (h : make name displayName rule = .ok c) : c.rule = rule := by
  simp only [make] at h
  split at h
  · cases h
  · split at h
    · cases h
      rfl
    · cases h

theorem make_self (h : Text.trim c.displayName.toList ≠ []) :
    make c.name c.displayName c.rule = .ok c := by
  have hname : String.ofList (Text.canonical c.name.toList) = c.name := by
    rw [c.canonical_name, String.ofList_toList]
  simp [make, hname, c.name_ne_empty, c.possible, h]

theorem pos_of_rule_expiry (h : c.rule = .expiry min max) : 0 < min.nanoseconds := by
  have hpossible := c.possible
  rw [h, ConstraintRule.isPossible, Bool.and_eq_true, decide_eq_true_iff] at hpossible
  exact hpossible.1

theorem check_of_expiry (hrule : c.rule = .expiry min max) (hne : min ≠ max)
    (hinput : input.inputs.lookup "expiry" = some (.integer n)) :
    c.check input =
      if fitsSigned64 n then .ok (decide (min.wholeSeconds ≤ n) && decide (n ≤ max.wholeSeconds))
      else .error (.invalidInput "expiry" "expected an integer") := by
  have hproperties : c.properties =
      [⟨"expiry", "Expiry (seconds)", .duration, true, some min.wholeSeconds,
        some max.wholeSeconds⟩] := by
    rw [properties, hrule]
    exact if_neg hne
  rw [check, hproperties, hrule]
  simp only [List.foldlM_cons, List.foldlM_nil, Declared.add, hinput, Property.validate,
    Json.integer, Json.integer?, Option.all_some]
  generalize (decide (min.wholeSeconds ≤ n) && decide (n ≤ max.wholeSeconds)) = within
  cases fitsSigned64 n with
  | false => rfl
  | true => cases within <;> rfl

/-- So many seconds are neither less than the one nor more than the other duration. -/
def IsWithin (min max : Duration) (n : Int) : Prop :=
  min.nanoseconds ≤ (Duration.ofSeconds n).nanoseconds ∧
    (Duration.ofSeconds n).nanoseconds ≤ max.nanoseconds

instance (min max : Duration) (n : Int) : Decidable (IsWithin min max n) :=
  inferInstanceAs (Decidable (min.nanoseconds ≤ (Duration.ofSeconds n).nanoseconds ∧
    (Duration.ofSeconds n).nanoseconds ≤ max.nanoseconds))

/-- What is accepted is never longer than the longest time allowed, and less than a second shorter
than the shortest. The only number that is judged wrongly is that of the seconds that are over when
the shortest time ends in the middle of one. -/
theorem check_expiry_eq_ok_true_iff (hmake : make name displayName (.expiry min max) = .ok c)
    (hlt : min.nanoseconds < max.nanoseconds)
    (hinput : input.inputs.lookup "expiry" = some (.integer n)) :
    (c.check input = .ok true ↔ fitsSigned64 n = true ∧
      min.nanoseconds < (Duration.ofSeconds (n + 1)).nanoseconds ∧
        (Duration.ofSeconds n).nanoseconds ≤ max.nanoseconds) ∧
    (fitsSigned64 n = true →
      ((c.check input = .ok true ↔ IsWithin min max n) ↔
        ¬ ((Duration.ofSeconds n).nanoseconds < min.nanoseconds ∧
          min.nanoseconds < (Duration.ofSeconds (n + 1)).nanoseconds))) := by
  have hrule : c.rule = .expiry min max := rule_of_make hmake
  have hmin : 0 < min.nanoseconds := pos_of_rule_expiry hrule
  have hne : min ≠ max := by
    rintro rfl
    exact Int.lt_irrefl _ hlt
  have haccepted : c.check input = .ok true ↔ fitsSigned64 n = true ∧
      min.nanoseconds < (Duration.ofSeconds (n + 1)).nanoseconds ∧
        (Duration.ofSeconds n).nanoseconds ≤ max.nanoseconds := by
    rw [check_of_expiry hrule hne hinput, ← Duration.wholeSeconds_le_iff hmin,
      ← Duration.le_wholeSeconds_iff (Int.lt_trans hmin hlt)]
    cases fitsSigned64 n <;> simp
  refine ⟨haccepted, fun hfits => ?_⟩
  rw [haccepted, IsWithin]
  simp only [hfits, true_and, Duration.nanoseconds_ofSeconds]
  omega

/-- A limit of at most ten seconds. -/
def atMostTenSeconds (least : Duration)
    (h : ConstraintRule.isPossible (.expiry least (.ofSeconds 10)) = true) : Constraint :=
  ⟨"expiry", "Expiry", .expiry least (.ofSeconds 10), by decide, by decide +kernel, h⟩

theorem check_expiry_of_two_seconds :
    ∃ c, make "expiry" "Expiry" (.expiry ⟨1500000000⟩ (.ofSeconds 10)) = .ok c ∧
      (c.check (CheckInput.empty.withInput "expiry" (.integer 2)) = .ok true ↔
        fitsSigned64 2 = true ∧ 1500000000 < (Duration.ofSeconds (2 + 1)).nanoseconds ∧
          (Duration.ofSeconds 2).nanoseconds ≤ (Duration.ofSeconds 10).nanoseconds) ∧
      (fitsSigned64 2 = true →
        ((c.check (CheckInput.empty.withInput "expiry" (.integer 2)) = .ok true ↔
            IsWithin ⟨1500000000⟩ (.ofSeconds 10) 2) ↔
          ¬ ((Duration.ofSeconds 2).nanoseconds < 1500000000 ∧
            1500000000 < (Duration.ofSeconds (2 + 1)).nanoseconds))) :=
  have hmake := make_self (c := atMostTenSeconds ⟨1500000000⟩ (by decide)) (by decide)
  ⟨_, hmake, check_expiry_eq_ok_true_iff hmake (by decide) rfl⟩

/-- No time at all is accepted, although half a second is the least that is allowed. -/
theorem check_expiry_of_no_seconds :
    ∃ c, make "expiry" "Expiry" (.expiry ⟨500000000⟩ (.ofSeconds 10)) = .ok c ∧
      c.check (CheckInput.empty.withInput "expiry" (.integer 0)) = .ok true ∧
        ¬ IsWithin ⟨500000000⟩ (.ofSeconds 10) 0 := by
  refine ⟨_, make_self (c := atMostTenSeconds ⟨500000000⟩ (by decide)) (by decide), ?_,
    by decide⟩
  rw [check_of_expiry rfl (by decide) rfl]
  rfl

end Constraint

end AccessGovernance
