import AccessGovernance.Number.Binary64
import Mathlib

/-! # Doubles nearest to integers

The order of doubles by position is the order of their values. The double nearest to an integer of
64 bits stands for an integer again, the nearest multiple of the distance between the doubles there.
So integers in the form of doubles are ordered like these multiples: as the integers themselves are,
except that some neighbours past `2 ^ 53` fall together.
-/

namespace AccessGovernance

/-- A function of natural numbers on integers: that of the absolute value, with the sign. -/
def reflect (f : Nat → Nat) (n : Int) : Int :=
  if n < 0 then -(f n.natAbs : Int) else f n.natAbs

section Reflect

variable {f : Nat → Nat}

theorem reflect_neg_natCast (hf : f 0 = 0) (m : Nat) : reflect f (-(m : Int)) = -(f m : Int) := by
  rw [reflect]
  split
  · rw [Int.natAbs_neg, Int.natAbs_natCast]
  · obtain rfl : m = 0 := by omega
    simp [hf]

theorem reflect_natCast (m : Nat) : reflect f m = f m := by
  rw [reflect, if_neg (by omega), Int.natAbs_natCast]

theorem reflect_mono (hf : Monotone f) : Monotone (reflect f) := by
  intro m n h
  have hup : m.natAbs ≤ n.natAbs → f m.natAbs ≤ f n.natAbs := fun h => hf h
  have hdown : n.natAbs ≤ m.natAbs → f n.natAbs ≤ f m.natAbs := fun h => hf h
  rw [reflect, reflect]
  omega

theorem reflect_strictMono (hf : StrictMono f) : StrictMono (reflect f) := by
  intro m n h
  have hup : m.natAbs < n.natAbs → f m.natAbs < f n.natAbs := fun h => hf h
  have hdown : n.natAbs < m.natAbs → f n.natAbs < f m.natAbs := fun h => hf h
  have hzero : 0 < m.natAbs → f 0 < f m.natAbs := fun h => hf h
  rw [reflect, reflect]
  omega

theorem reflect_mul (f : Nat → Nat) (k : Nat) (n : Int) :
    reflect (fun m => f m * k) n = reflect f n * k := by
  rw [reflect, reflect]
  split
  · rw [Int.natCast_mul, Int.neg_mul]
  · rw [Int.natCast_mul]

end Reflect

theorem compare_map_eq_of_strictMono {f : Int → Int} (hf : StrictMono f) (m n : Int) :
    compare (f m) (f n) = compare m n := by
  rw [← cmp_eq_compare, ← cmp_eq_compare, hf.cmp_map_eq]

namespace Binary64

/-! ## The value of a double -/

/-- The magnitude at a position, as a multiple of the least positive double. -/
def magnitudeAt (p : Nat) : Nat :=
  if p < binade then p else (p % binade + binade) * 2 ^ (p / binade - 1)

theorem magnitudeAt_of_lt {p : Nat} (h : p < binade) : magnitudeAt p = p :=
  if_pos h

theorem magnitudeAt_mul_add {m r : Nat} (h : r < binade) :
    magnitudeAt ((m + 1) * binade + r) = (r + binade) * 2 ^ m := by
  have hpos : 0 < binade := by decide
  have hge : ¬ (m + 1) * binade + r < binade := by
    rw [Nat.add_mul]
    omega
  rw [magnitudeAt, if_neg hge, Nat.add_comm _ r, Nat.add_mul_mod_self_right, Nat.mod_eq_of_lt h,
    Nat.add_mul_div_right _ _ hpos, Nat.div_eq_of_lt h, Nat.zero_add, Nat.add_sub_cancel]

/-- The doubles from a power of two up to the next, both included, are equally far apart. -/
theorem magnitudeAt_add {m q : Nat} (hlow : binade ≤ q) (hhigh : q ≤ 2 * binade) :
    magnitudeAt (m * binade + q) = q * 2 ^ m := by
  rcases Nat.lt_or_eq_of_le hhigh with hlt | rfl
  · have hq : m * binade + q = (m + 1) * binade + (q - binade) := by
      rw [Nat.add_mul]
      omega
    rw [hq, magnitudeAt_mul_add (by omega), Nat.sub_add_cancel hlow]
  · have hq : m * binade + 2 * binade = (m + 1 + 1) * binade + 0 := by
      rw [Nat.add_mul, Nat.add_mul]
      omega
    rw [hq, magnitudeAt_mul_add (by decide), Nat.zero_add, Nat.pow_succ, Nat.mul_comm (2 ^ m),
      ← Nat.mul_assoc, Nat.mul_comm binade]

theorem magnitudeAt_lt_succ (p : Nat) : magnitudeAt p < magnitudeAt (p + 1) := by
  have hpos : 0 < binade := by decide
  rcases Nat.lt_or_ge p binade with hlow | hhigh
  · rw [magnitudeAt_of_lt hlow]
    rcases Nat.lt_or_eq_of_le (Nat.succ_le_of_lt hlow) with hlt | heq
    · rw [magnitudeAt_of_lt hlt]
      exact Nat.lt_succ_self p
    · have hfirst : magnitudeAt (0 * binade + binade) = binade * 2 ^ 0 :=
        magnitudeAt_add (Nat.le_refl _) (by omega)
      rw [Nat.zero_mul, Nat.zero_add, Nat.pow_zero, Nat.mul_one] at hfirst
      rw [show p + 1 = binade from heq, hfirst]
      exact hlow
  · obtain ⟨m, hm⟩ : ∃ m, p / binade = m + 1 :=
      Nat.exists_eq_add_of_le' ((Nat.one_le_div_iff hpos).mpr hhigh)
    obtain ⟨q, hq⟩ : ∃ q, q = binade + p % binade := ⟨_, rfl⟩
    have hp : p = m * binade + q := by
      have hsplit := Nat.div_add_mod' p binade
      rw [hm, Nat.add_mul] at hsplit
      omega
    have hlow : binade ≤ q := hq ▸ Nat.le_add_right _ _
    have hlt : q < 2 * binade := by
      have hmod := Nat.mod_lt p hpos
      omega
    rw [hp, magnitudeAt_add hlow (Nat.le_of_lt hlt), Nat.add_assoc,
      magnitudeAt_add (Nat.le_succ_of_le hlow) hlt]
    exact Nat.mul_lt_mul_of_pos_right (Nat.lt_succ_self q) (Nat.two_pow_pos m)

theorem magnitudeAt_strictMono : StrictMono magnitudeAt :=
  strictMono_nat_of_lt_succ magnitudeAt_lt_succ

/-- The value of a double as a multiple of `2 ^ -1074`, the least positive double. -/
def scaled (x : Binary64) : Int :=
  let magnitude := x.significand * 2 ^ (x.exponent + 1074).toNat
  if x.negative then -(magnitude : Int) else magnitude

theorem significand_mul_eq (x : Binary64) :
    x.significand * 2 ^ (x.exponent + 1074).toNat = magnitudeAt x.position := by
  rw [significand, exponent, magnitudeAt]
  split
  · exact Nat.mul_one _
  · rename_i h
    have hexponent : ((x.position / binade : Nat) - 1075 + 1074 : Int).toNat =
        x.position / binade - 1 := by omega
    rw [hexponent]

/-- The scaled value of the double that stands for one. -/
def scaledOne : Nat :=
  2 ^ (1022 + 52)

theorem scaledOne_pos : 0 < scaledOne := by
  unfold scaledOne
  -- without its value nobody tries to compute the power
  generalize 1022 + 52 = k
  exact Nat.two_pow_pos k

theorem scaled_eq_reflect (x : Binary64) : x.scaled = reflect magnitudeAt x.key := by
  rw [scaled, key, significand_mul_eq]
  split
  · exact (reflect_neg_natCast (magnitudeAt_of_lt (by decide)) _).symm
  · exact (reflect_natCast _).symm

/-- Positions with their signs are ordered like the values of the doubles. -/
theorem order_eq_compare_scaled (x y : Binary64) : x.order y = compare x.scaled y.scaled := by
  rw [scaled_eq_reflect, scaled_eq_reflect, order,
    compare_map_eq_of_strictMono (reflect_strictMono magnitudeAt_strictMono)]

/-! ## Rounding -/

section Rounding

variable {m n d : Nat}

theorem roundHalfEven_one (n : Nat) : roundHalfEven n 1 = n := by
  simp [roundHalfEven, Nat.mod_one]

theorem roundHalfEven_mul (hd : 0 < d) (k : Nat) : roundHalfEven (k * d) d = k := by
  simp [roundHalfEven, hd]

/-- Rounding moves by no more than half of the divisor. -/
theorem roundHalfEven_error (hd : 0 < d) (n : Nat) :
    2 * (roundHalfEven n d * d) ≤ 2 * n + d ∧ 2 * n ≤ 2 * (roundHalfEven n d * d) + d := by
  have hsplit := Nat.div_add_mod' n d
  have hmod := Nat.mod_lt n hd
  rw [roundHalfEven]
  split
  · omega
  · rw [Nat.add_mul]
    omega

theorem roundHalfEven_mono (h : m ≤ n) : roundHalfEven m d ≤ roundHalfEven n d := by
  have hdiv := Nat.div_le_div_right (c := d) h
  have hm := Nat.div_add_mod' m d
  have hn := Nat.div_add_mod' n d
  rw [roundHalfEven, roundHalfEven]
  rcases Nat.lt_or_eq_of_le hdiv with hlt | heq
  · split <;> split <;> omega
  · rw [heq] at hm ⊢
    have hmod : m % d ≤ n % d := by omega
    split <;> split <;> omega

end Rounding

/-! ## Integers -/

/-- How far apart the doubles are about an integer, from a power of two up to the next; one, where
they are closer. -/
def spacing (n : Nat) : Nat :=
  2 ^ (n.log2 - 52)

def nearestNat (n : Nat) : Nat :=
  roundHalfEven n (spacing n) * spacing n

/-- The integer that the double nearest to an integer stands for. -/
def nearest : Int → Int :=
  reflect nearestNat

section Integers

variable {m n : Nat}

theorem spacing_pos (n : Nat) : 0 < spacing n :=
  Nat.two_pow_pos _

theorem spacing_of_lt (h : n < 2 ^ 53) : spacing n = 1 := by
  have hlog : n.log2 < 53 := by
    by_cases hn : n = 0
    · subst hn
      decide
    · exact (Nat.log2_lt hn).mpr h
  rw [spacing, Nat.sub_eq_zero_of_le (Nat.le_of_lt_succ hlog), Nat.pow_zero]

theorem nearestNat_of_lt (h : n < 2 ^ 53) : nearestNat n = n := by
  rw [nearestNat, spacing_of_lt h, roundHalfEven_one, Nat.mul_one]

theorem two_pow_log2_eq (n : Nat) : 2 ^ n.log2 = 2 ^ min n.log2 52 * spacing n := by
  rw [spacing, ← Nat.pow_add]
  congr 1
  omega

theorem two_pow_log2_le_nearestNat (hn : n ≠ 0) : 2 ^ n.log2 ≤ nearestNat n := by
  have hround := roundHalfEven_mono (d := spacing n) (Nat.log2_self_le hn)
  rw [two_pow_log2_eq n, roundHalfEven_mul (spacing_pos n)] at hround
  rw [two_pow_log2_eq n]
  exact Nat.mul_le_mul_right _ hround

theorem nearestNat_le_two_pow (n : Nat) : nearestNat n ≤ 2 ^ (n.log2 + 1) := by
  have hnext : 2 ^ (n.log2 + 1) = 2 * 2 ^ min n.log2 52 * spacing n := by
    rw [Nat.pow_succ, two_pow_log2_eq n, Nat.mul_comm _ 2, Nat.mul_assoc]
  have hround := roundHalfEven_mono (d := spacing n) (Nat.le_of_lt (Nat.lt_log2_self (n := n)))
  rw [hnext, roundHalfEven_mul (spacing_pos n)] at hround
  rw [hnext]
  exact Nat.mul_le_mul_right _ hround

theorem nearestNat_mono : Monotone nearestNat := by
  intro m n h
  by_cases hm : m = 0
  · subst hm
    exact Nat.zero_le _
  have hn : n ≠ 0 := by omega
  have hlog : m.log2 ≤ n.log2 := (Nat.le_log2 hn).mpr (Nat.le_trans (Nat.log2_self_le hm) h)
  rcases Nat.lt_or_eq_of_le hlog with hlt | heq
  · calc
      nearestNat m ≤ 2 ^ (m.log2 + 1) := nearestNat_le_two_pow m
      _ ≤ 2 ^ n.log2 := Nat.pow_le_pow_right (by decide) hlt
      _ ≤ nearestNat n := two_pow_log2_le_nearestNat hn
  · have hspacing : spacing m = spacing n := congrArg (fun l => 2 ^ (l - 52)) heq
    rw [nearestNat, nearestNat, hspacing]
    exact Nat.mul_le_mul_right _ (roundHalfEven_mono h)

/-! ### The double of an integer -/

theorem exponentOfRatio_one (hn : n ≠ 0) : exponentOfRatio n 1 = (n.log2 : Int) - 52 := by
  have hone : Nat.log2 1 = 0 := by decide
  have hreaches : 1 <<< ((n.log2 : Int) - (0 : Nat)).toNat ≤
      n <<< (-((n.log2 : Int) - (0 : Nat))).toNat := by
    have hup : ((n.log2 : Int) - (0 : Nat)).toNat = n.log2 := by omega
    have hdown : (-((n.log2 : Int) - (0 : Nat))).toNat = 0 := by omega
    rw [hup, hdown, Nat.one_shiftLeft, Nat.shiftLeft_zero]
    exact Nat.log2_self_le hn
  simp only [exponentOfRatio, hone, hreaches, if_true]
  omega

theorem positionOfRatio_one (hn : n ≠ 0) :
    positionOfRatio n 1 =
      (n.log2 + 1022) * binade + roundHalfEven (n * 2 ^ (52 - n.log2)) (spacing n) := by
  have hposition : ((n.log2 : Int) - 52 + 1074).toNat = n.log2 + 1022 := by omega
  have hup : (-((n.log2 : Int) - 52)).toNat = 52 - n.log2 := by omega
  have hdown : ((n.log2 : Int) - 52).toNat = n.log2 - 52 := by omega
  rw [positionOfRatio, if_neg hn, exponentOfRatio_one hn]
  simp only [hposition, hup, hdown, Nat.shiftLeft_eq, Nat.one_mul, spacing]

/-- The significand of the nearest double has 53 bits, or is the next power of two. -/
theorem significand_bounds (hn : n ≠ 0) :
    binade ≤ roundHalfEven (n * 2 ^ (52 - n.log2)) (spacing n) ∧
      roundHalfEven (n * 2 ^ (52 - n.log2)) (spacing n) ≤ 2 * binade := by
  have hpower : 2 ^ n.log2 * 2 ^ (52 - n.log2) = binade * spacing n := by
    rw [spacing, show binade = 2 ^ 52 from rfl, ← Nat.pow_add, ← Nat.pow_add]
    congr 1
    omega
  have hlow : binade * spacing n ≤ n * 2 ^ (52 - n.log2) := by
    rw [← hpower]
    exact Nat.mul_le_mul_right _ (Nat.log2_self_le hn)
  have hhigh : n * 2 ^ (52 - n.log2) ≤ 2 * binade * spacing n := by
    rw [Nat.mul_assoc, ← hpower, ← Nat.mul_assoc, Nat.mul_comm 2, ← Nat.pow_succ]
    exact Nat.mul_le_mul_right _ (Nat.le_of_lt Nat.lt_log2_self)
  constructor
  · simpa [roundHalfEven_mul (spacing_pos n)] using roundHalfEven_mono (d := spacing n) hlow
  · simpa [roundHalfEven_mul (spacing_pos n)] using roundHalfEven_mono (d := spacing n) hhigh

theorem significand_mul_two_pow (n k : Nat) :
    roundHalfEven (n * 2 ^ (52 - n.log2)) (spacing n) * 2 ^ (n.log2 + k) =
      nearestNat n * 2 ^ (k + 52) := by
  rcases Nat.le_total n.log2 52 with hsmall | hlarge
  · have hspacing : spacing n = 1 := by
      rw [spacing, Nat.sub_eq_zero_of_le hsmall, Nat.pow_zero]
    have hexponent : 52 - n.log2 + (n.log2 + k) = k + 52 := by omega
    rw [nearestNat, hspacing, roundHalfEven_one, roundHalfEven_one, Nat.mul_one, Nat.mul_assoc,
      ← Nat.pow_add, hexponent]
  · have hexponent : n.log2 + k = n.log2 - 52 + (k + 52) := by omega
    rw [nearestNat, Nat.sub_eq_zero_of_le hlarge, Nat.pow_zero, Nat.mul_one, Nat.mul_assoc, spacing,
      ← Nat.pow_add, hexponent]

theorem magnitudeAt_positionOfRatio_one (n : Nat) :
    magnitudeAt (positionOfRatio n 1) = nearestNat n * scaledOne := by
  by_cases hn : n = 0
  · subst hn
    rw [nearestNat_of_lt (Nat.two_pow_pos 53), Nat.zero_mul]
    rfl
  · obtain ⟨hlow, hhigh⟩ := significand_bounds hn
    rw [positionOfRatio_one hn, magnitudeAt_add hlow hhigh, significand_mul_two_pow, scaledOne]

theorem positionOfRatio_one_lt (h : n < 2 ^ 64) : positionOfRatio n 1 < positionLimit := by
  by_cases hn : n = 0
  · subst hn
    decide
  · have hlog : n.log2 < 64 := (Nat.log2_lt hn).mpr h
    have hhigh := (significand_bounds hn).2
    have hbinades : (n.log2 + 1022) * binade ≤ 1085 * binade := Nat.mul_le_mul_right _ (by omega)
    rw [positionOfRatio_one hn]
    have hpos : 0 < binade := by decide
    rw [positionLimit]
    omega

end Integers

theorem natAbs_lt_of_fitsSigned64 {n : Int} (h : fitsSigned64 n = true) : n.natAbs < 2 ^ 64 := by
  simp only [fitsSigned64, Bool.and_eq_true, decide_eq_true_iff] at h
  omega

theorem scaled_ofInt {n : Int} (h : fitsSigned64 n = true) :
    (ofInt n).scaled = nearest n * scaledOne := by
  have hfinite := positionOfRatio_one_lt (natAbs_lt_of_fitsSigned64 h)
  have hofInt : ofInt n = ⟨decide (n < 0), positionOfRatio n.natAbs 1, hfinite⟩ := by
    rw [ofInt, ofRatio?, dif_pos hfinite, Option.getD_some]
  rw [hofInt, scaled, significand_mul_eq, nearest, ← reflect_mul]
  simp only [magnitudeAt_positionOfRatio_one, reflect, decide_eq_true_iff]

/-- Integers are compared as the integers that the doubles nearest to them stand for. -/
theorem order_ofInt {a b : Int} (ha : fitsSigned64 a = true) (hb : fitsSigned64 b = true) :
    (ofInt a).order (ofInt b) = compare (nearest a) (nearest b) := by
  have hscale : StrictMono fun n : Int => n * scaledOne :=
    fun m n h => Int.mul_lt_mul_of_pos_right h (Int.natCast_pos.mpr scaledOne_pos)
  rw [order_eq_compare_scaled, scaled_ofInt ha, scaled_ofInt hb]
  exact compare_map_eq_of_strictMono hscale (nearest a) (nearest b)

/-! ## Which integers are told apart -/

theorem nearest_mono : Monotone nearest :=
  reflect_mono nearestNat_mono

theorem nearest_of_lt {n : Int} (h : n.natAbs < 2 ^ 53) : nearest n = n := by
  rw [nearest, reflect, nearestNat_of_lt h]
  omega

theorem natAbs_nearest (n : Int) : (nearest n).natAbs = nearestNat n.natAbs := by
  rw [nearest, reflect]
  omega

theorem spacing_le {n : Nat} (h : n < 2 ^ 63) : spacing n ≤ 2 ^ 10 := by
  by_cases hn : n = 0
  · subst hn
    decide
  · have hlog : n.log2 < 63 := (Nat.log2_lt hn).mpr h
    exact Nat.pow_le_pow_right (by decide) (by omega)

/-- The nearest double is off by half of the distance between doubles at most. -/
theorem natAbs_nearest_sub_le {n : Int} (h : fitsSigned64 n = true) :
    (nearest n - n).natAbs ≤ 2 ^ 9 := by
  simp only [fitsSigned64, Bool.and_eq_true, decide_eq_true_iff] at h
  have hnat : nearestNat n.natAbs ≤ n.natAbs + 2 ^ 9 ∧ n.natAbs ≤ nearestNat n.natAbs + 2 ^ 9 := by
    rcases Nat.lt_or_eq_of_le (show n.natAbs ≤ 2 ^ 63 by omega) with hlt | heq
    · have herror := roundHalfEven_error (spacing_pos n.natAbs) n.natAbs
      have hspacing := spacing_le hlt
      rw [nearestNat]
      omega
    · have hend : nearestNat (2 ^ 63) = 2 ^ 63 := by decide
      rw [heq, hend]
      omega
  rw [nearest, reflect]
  omega

theorem two_pow_le_natAbs_nearest {n : Int} (h : 2 ^ 53 ≤ n.natAbs) :
    2 ^ 53 ≤ (nearest n).natAbs := by
  have hend : nearestNat (2 ^ 53) = 2 ^ 53 := by decide
  rw [natAbs_nearest, ← hend]
  exact nearestNat_mono h

theorem eq_of_nearest_eq_of_lt {a b : Int} (ha : a.natAbs < 2 ^ 53)
    (heq : nearest a = nearest b) : a = b := by
  have hb : b.natAbs < 2 ^ 53 := by
    by_contra hb
    have hlow := two_pow_le_natAbs_nearest (Nat.le_of_not_lt hb)
    rw [← heq, nearest_of_lt ha] at hlow
    exact Nat.not_lt.mpr hlow ha
  rwa [nearest_of_lt ha, nearest_of_lt hb] at heq

theorem eq_of_nearest_eq {a b : Int} (ha : fitsSigned64 a = true) (hb : fitsSigned64 b = true)
    (h : a.natAbs < 2 ^ 53 ∨ b.natAbs < 2 ^ 53 ∨ 2 ^ 10 < (a - b).natAbs)
    (heq : nearest a = nearest b) : a = b := by
  rcases h with hsmall | hsmall | hfar
  · exact eq_of_nearest_eq_of_lt hsmall heq
  · exact (eq_of_nearest_eq_of_lt hsmall heq.symm).symm
  · have hnear := natAbs_nearest_sub_le ha
    have hnear' := natAbs_nearest_sub_le hb
    omega

theorem nearest_lt_nearest_iff {a b : Int} (h : nearest a = nearest b → a = b) :
    nearest a < nearest b ↔ a < b := by
  constructor
  · exact nearest_mono.reflect_lt
  · intro hlt
    exact lt_of_le_of_ne (nearest_mono (Int.le_of_lt hlt)) fun heq => Int.ne_of_lt hlt (h heq)

end Binary64

end AccessGovernance
