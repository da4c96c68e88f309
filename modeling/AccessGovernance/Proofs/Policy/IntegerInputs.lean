import AccessGovernance.Proofs.Expression.Grammar
import AccessGovernance.Proofs.Number.NearestDouble
import AccessGovernance.Proofs.Policy.CheckOutcomes

/-! # Integers in checks

An integer that is entered is held against its declared range as it is. In an expression two
integers are compared as the doubles nearest to them, so that those with one nearest double are
taken to be equal. This happens only past `2 ^ 53`, to integers that are not more than `2 ^ 10`
apart.
-/

namespace AccessGovernance

namespace Expression

open Binary64 (nearest)

variable {context x y : Json} {l r : Expression} {a b m n : Int} {op : Operator}

/-- What a comparing operator other than `in` says of two integers. -/
def Operator.compares (m n : Int) : Operator → Bool
  | eq => m = n
  | ne => m ≠ n
  | lt => m < n
  | le => m ≤ n
  | gt => n < m
  | ge => n ≤ m
  | and | or | isIn => false

theorem Operator.compares_congr {m' n' : Int} (hlt : m < n ↔ m' < n') (hgt : n < m ↔ n' < m')
    (op : Operator) : op.compares m n = op.compares m' n' := by
  cases op <;> simp only [compares, decide_eq_decide] <;> omega

/-- All comparisons of two expressions, and whether the one is in the list of the other alone, come
out as they do for two integers. -/
structure AreComparedAs (context : Json) (l r : Expression) (m n : Int) : Prop where
  operator : ∀ op ∈ comparisonOperators, op ≠ .isIn →
    value context (.binary op l r) = .ok (.bool (op.compares m n))
  isIn : value context (.binary .isIn l (.list [r])) = .ok (.bool (Operator.eq.compares m n))

theorem applyOperator_of_compareValues (hop : op ∈ comparisonOperators) (hne : op ≠ .isIn)
    (hequal : valuesEqual x y = Operator.eq.compares m n)
    (hcompare : compareValues x y = .ok (compare m n)) :
    applyOperator op x y = .ok (op.compares m n) := by
  have hlt : (compare m n).isLT = Operator.lt.compares m n := by
    rw [Bool.eq_iff_iff, Ordering.isLT_iff_eq_lt, Int.compare_eq_lt, Operator.compares,
      decide_eq_true_iff]
  have hgt : (compare m n).isGT = Operator.gt.compares m n := by
    rw [Bool.eq_iff_iff, Ordering.isGT_iff_eq_gt, Int.compare_eq_gt, Operator.compares,
      decide_eq_true_iff]
  have hle : (compare m n).isLE = Operator.le.compares m n := by
    rw [Bool.eq_iff_iff, Ordering.isLE_iff_ne_gt, Int.compare_eq_gt, Operator.compares,
      decide_eq_true_iff, Int.not_lt]
  have hge : (compare m n).isGE = Operator.ge.compares m n := by
    rw [Bool.eq_iff_iff, Ordering.isGE_iff_ne_lt, Int.compare_eq_lt, Operator.compares,
      decide_eq_true_iff, Int.not_lt]
  cases op with
  | eq => rw [applyOperator, hequal]
  | ne =>
    rw [applyOperator, hequal, Operator.compares, Operator.compares]
    exact congrArg Except.ok decide_not.symm
  | lt => rw [applyOperator, hcompare, Except.map, hlt]
  | le => rw [applyOperator, hcompare, Except.map, hle]
  | gt => rw [applyOperator, hcompare, Except.map, hgt]
  | ge => rw [applyOperator, hcompare, Except.map, hge]
  | isIn => exact absurd rfl hne
  | and => exact absurd hop (by decide)
  | or => exact absurd hop (by decide)

theorem value_binary (hop : op ∈ comparisonOperators) (hl : value context l = .ok x)
    (hr : value context r = .ok y) :
    value context (.binary op l r) = (applyOperator op x y).map .bool := by
  rw [value, hl]
  cases op with
  | and => exact absurd hop (by decide)
  | or => exact absurd hop (by decide)
  | _ =>
    simp only [hr]
    rfl

theorem valuesEqual_integer (ha : fitsSigned64 a = true) (hb : fitsSigned64 b = true) :
    valuesEqual (.integer a) (.integer b) = Operator.eq.compares (nearest a) (nearest b) := by
  have horder := Binary64.order_ofInt ha hb
  simp [valuesEqual, Json.integer, Json.number?, Number.toBinary64, horder, Operator.compares]

theorem areComparedAs_nearest (hl : value context l = .ok (.integer a))
    (hr : value context r = .ok (.integer b)) (ha : fitsSigned64 a = true)
    (hb : fitsSigned64 b = true) : AreComparedAs context l r (nearest a) (nearest b) where
  operator op hop hne := by
    have hcompare : compareValues (.integer a) (.integer b) =
        .ok (compare (nearest a) (nearest b)) := congrArg Except.ok (Binary64.order_ofInt ha hb)
    rw [value_binary hop hl hr,
      applyOperator_of_compareValues hop hne (valuesEqual_integer ha hb) hcompare]
    rfl
  isIn := by
    have hlist : value context (.list [r]) = .ok (.array [.integer b]) := by
      rw [value, values, hr]
      rfl
    have hmember : applyOperator .isIn (.integer a) (.array [.integer b]) =
        .ok (Operator.eq.compares (nearest a) (nearest b)) := by
      have heq := valuesEqual_integer hb ha
      rw [applyOperator, List.any_cons, heq, List.any_nil, Bool.or_false, Operator.compares,
        Operator.compares]
      exact congrArg Except.ok (decide_eq_decide.mpr eq_comm)
    rw [value_binary (by decide) hl hlist, hmember]
    rfl

theorem AreComparedAs.congr {m' n' : Int} (h : AreComparedAs context l r m n)
    (hlt : m < n ↔ m' < n') (hgt : n < m ↔ n' < m') : AreComparedAs context l r m' n' where
  operator op hop hne := by rw [h.operator op hop hne, op.compares_congr hlt hgt]
  isIn := by rw [h.isIn, Operator.eq.compares_congr hlt hgt]

theorem areComparedAs_iff (hnearest : AreComparedAs context l r (nearest a) (nearest b)) :
    AreComparedAs context l r a b ↔ (nearest a = nearest b → a = b) := by
  constructor
  · intro h heq
    have hvalue := (hnearest.operator .eq (by decide) (by decide)).symm.trans
      (h.operator .eq (by decide) (by decide))
    simpa [Operator.compares, heq] using hvalue
  · intro h
    exact hnearest.congr (Binary64.nearest_lt_nearest_iff h)
      (Binary64.nearest_lt_nearest_iff fun heq => (h heq.symm).symm)

/-- Two integers of 64 bits are compared as the integers that the doubles nearest to them stand for.
This is exact unless different integers have one nearest double, and they can only have it if both
are past `2 ^ 53` and they are close together. Declared ranges are exact in any case. -/
theorem areComparedAs_iff_nearest (hl : value context l = .ok (.integer a))
    (hr : value context r = .ok (.integer b)) (ha : fitsSigned64 a = true)
    (hb : fitsSigned64 b = true) :
    AreComparedAs context l r (nearest a) (nearest b) ∧
    (AreComparedAs context l r a b ↔ (nearest a = nearest b → a = b)) ∧
    (a.natAbs < 2 ^ 53 ∨ b.natAbs < 2 ^ 53 ∨ 2 ^ 10 < (a - b).natAbs →
      AreComparedAs context l r a b) ∧
    ∀ p : Property, p.type = .int →
      ∃ inRange, p.validate (.integer a) = .ok inRange ∧
        (inRange = false ↔ p.Excludes (.integer a)) := by
  have hnearest := areComparedAs_nearest hl hr ha hb
  have hexact := areComparedAs_iff hnearest
  refine ⟨hnearest, hexact, fun h => hexact.mpr (Binary64.eq_of_nearest_eq ha hb h), ?_⟩
  intro p htype
  exact Property.validate_of_admits (htype ▸ .int ha)

/-- A context with the first integer that is no double as an input. -/
def Sample.withTicket : Json :=
  .object [("input", .object [("ticket", .integer 9007199254740993)])]

theorem areComparedAs_iff_nearest_of_ticket :
    value Sample.withTicket (.path "input" ["ticket"]) = .ok (.integer 9007199254740993) ∧
    value Sample.withTicket (.literal (.number (.integer 9007199254740992))) =
      .ok (.integer 9007199254740992) ∧
    AreComparedAs Sample.withTicket (.path "input" ["ticket"])
      (.literal (.number (.integer 9007199254740992))) 9007199254740992 9007199254740992 ∧
    ¬ AreComparedAs Sample.withTicket (.path "input" ["ticket"])
      (.literal (.number (.integer 9007199254740992))) 9007199254740993 9007199254740992 := by
  have hticket : value Sample.withTicket (.path "input" ["ticket"]) =
      .ok (.integer 9007199254740993) := rfl
  have hup : nearest 9007199254740993 = 9007199254740992 := by decide
  have hself : nearest 9007199254740992 = 9007199254740992 := by decide
  obtain ⟨hnearest, hexact, -⟩ := areComparedAs_iff_nearest hticket
    (rfl : value _ (.literal (.number (.integer 9007199254740992))) = _) (by decide) (by decide)
  rw [hup, hself] at hnearest
  refine ⟨hticket, rfl, hnearest, ?_⟩
  rw [hexact, hup, hself]
  decide

/-- Two different integers are equal. -/
theorem evaluate_eq_of_one_nearest : ∃ e : Expression,
    ofText "9007199254740993 == 9007199254740992" = .ok e ∧ e.evaluate (.object []) = .ok true ∧
      (9007199254740993 : Int) ≠ 9007199254740992 := by
  refine ⟨.binary .eq (.literal (.number (.integer 9007199254740993)))
    (.literal (.number (.integer 9007199254740992))), by cbv, ?_, by decide⟩
  decide +kernel

end Expression

end AccessGovernance
