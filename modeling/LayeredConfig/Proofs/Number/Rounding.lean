import LayeredConfig.Number.Decimal
import Mathlib.Algebra.Order.Field.Power
import Mathlib.Data.Rat.Cast.Order
import Mathlib.Tactic.FieldSimp
import Mathlib.Tactic.Linarith
import Mathlib.Tactic.NormNum
import Mathlib.Tactic.Positivity
import Mathlib.Tactic.Ring

/-!
# Rounding to the binary format

The numbers of the format that are as large as a given one lie on a grid of a
power of two.  Rounding takes a point of that grid at most half a step away.  So
the error is bounded by the size of the number, and a number that lies close
enough to a point of the grid is rounded to it.

Main statements: `Magnitude.Rounds.error_le`, `Magnitude.Rounds.value_eq_of_near`,
`Magnitude.exists_ofFraction`, `Magnitude.exists_add`, `Magnitude.exists_mul`.
-/

namespace LayeredConfig.Number

theorem divNearestEven_error (num : Nat) {den : Nat} (positive : 0 < den) :
    2 * (divNearestEven num den * den) ≤ 2 * num + den ∧
      2 * num ≤ 2 * (divNearestEven num den * den) + den := by
  have split := Nat.div_add_mod' num den
  have bound := Nat.mod_lt num positive
  have next : (num / den + 1) * den = num / den * den + den := Nat.succ_mul (num / den) den
  unfold divNearestEven
  simp only
  split_ifs <;> omega

namespace Magnitude

/-- The unit is one over two to this power. -/
@[irreducible] def depth : Nat := 1074

theorem depth_eq : 1074 = depth := by
  unfold depth
  rfl

/-- Units in one. -/
def perOne : Nat := 2 ^ depth

theorem perOne_pos : 0 < perOne := Nat.two_pow_pos depth

def value (m : Magnitude) : ℚ := m.units / perOne

/-- The scale of the grid on which a quotient is rounded. -/
def gridScale (num den : Nat) : Nat :=
  (if num / den = 0 then 0 else (num / den).log2 + 1) - 53

theorem gridScale_le_iff {num den k : Nat} (positive : 0 < den) :
    gridScale num den ≤ k ↔ num < 2 ^ (53 + k) * den := by
  rw [← Nat.div_lt_iff_lt_mul positive, gridScale]
  split
  next none => simp [none]
  next some =>
    rw [← Nat.log2_lt some]
    omega

theorem roundUnits_eq (num den : Nat) : roundUnits num den =
    let s := gridScale num den
    let m := divNearestEven num (den * 2 ^ s)
    let rounded : Magnitude := if m = 2 ^ 53 then ⟨2 ^ 52, s + 1⟩ else ⟨m, s⟩
    if rounded.scale ≤ maxScale then some rounded else none := rfl

theorem ofFraction_eq (num den : Nat) : ofFraction num den = roundUnits (num * perOne) den := by
  unfold ofFraction
  rw [depth_eq]
  rfl

theorem mul_eq (a b : Magnitude) : a.mul b = roundUnits (a.units * b.units) perOne := by
  unfold mul
  rw [depth_eq]
  rfl

theorem round_eq (m : Magnitude) : m.round = (2 * m.units + perOne) / (2 * perOne) := by
  have next : 1075 = depth + 1 := by rw [← depth_eq]
  unfold round
  rw [depth_eq, next, Nat.pow_eq, Nat.pow_eq, Nat.pow_succ', perOne]

/-! ## What a rounding is -/

/-- Rounding a number gives a magnitude: a point of the grid that belongs to the size of the number,
at most half a step away from it. -/
def Rounds (v : ℚ) (r : Magnitude) : Prop :=
  ∃ s : ℕ, (∀ k, s ≤ k ↔ v * perOne < 2 ^ (53 + k)) ∧ 2 ^ s ∣ r.units ∧
    |(r.units : ℚ) - v * perOne| ≤ 2 ^ s / 2

theorem divNearestEven_le {num den : Nat} (positive : 0 < den) :
    divNearestEven num (den * 2 ^ gridScale num den) ≤ 2 ^ 53 := by
  have grid : num < 2 ^ (53 + gridScale num den) * den :=
    (gridScale_le_iff positive).mp (Nat.le_refl _)
  have stepPositive : 0 < den * 2 ^ gridScale num den :=
    Nat.mul_pos positive (Nat.two_pow_pos _)
  have error := (divNearestEven_error num stepPositive).1
  rw [Nat.pow_add, Nat.mul_assoc, Nat.mul_comm (2 ^ gridScale num den)] at grid
  generalize den * 2 ^ gridScale num den = step at grid stepPositive error ⊢
  by_contra beyond
  have far := Nat.mul_le_mul_right step (Nat.succ_le_of_lt (Nat.lt_of_not_le beyond))
  rw [Nat.succ_mul] at far
  omega

/-- A quotient is rounded to a point of its grid; at the end of the grid the next scale begins. -/
theorem cases_roundUnits {num den : Nat} {r : Magnitude} (rounded : roundUnits num den = some r) :
    (divNearestEven num (den * 2 ^ gridScale num den) = 2 ^ 53 ∧
        r = ⟨2 ^ 52, gridScale num den + 1⟩) ∨
      (divNearestEven num (den * 2 ^ gridScale num den) ≠ 2 ^ 53 ∧
        r = ⟨divNearestEven num (den * 2 ^ gridScale num den), gridScale num den⟩) := by
  rw [roundUnits_eq] at rounded
  simp only at rounded
  split at rounded
  next carry =>
    obtain ⟨_, same⟩ := Option.ite_none_right_eq_some.mp rounded
    exact Or.inl ⟨carry, (Option.some.inj same).symm⟩
  next noCarry =>
    obtain ⟨_, same⟩ := Option.ite_none_right_eq_some.mp rounded
    exact Or.inr ⟨noCarry, (Option.some.inj same).symm⟩

theorem units_of_roundUnits {num den : Nat} {r : Magnitude}
    (rounded : roundUnits num den = some r) :
    r.units = divNearestEven num (den * 2 ^ gridScale num den) * 2 ^ gridScale num den := by
  rcases cases_roundUnits rounded with ⟨carry, rfl⟩ | ⟨_, rfl⟩
  · show 2 ^ 52 * 2 ^ (gridScale num den + 1) = _
    rw [carry, Nat.pow_succ]
    omega
  · rfl

/-- A quotient in range is rounded to a number of the format. -/
theorem exists_grid_of_roundUnits {num den k : Nat} (positive : 0 < den)
    (small : num < 2 ^ (53 + k) * den) (inRange : k < maxScale) :
    ∃ r, roundUnits num den = some r ∧
      r.units = divNearestEven num (den * 2 ^ gridScale num den) * 2 ^ gridScale num den := by
  have scale := (gridScale_le_iff positive).mpr small
  have present : roundUnits num den ≠ none := by
    rw [roundUnits_eq]
    simp only
    split <;>
      exact fun none => Option.some_ne_none _ ((if_pos (by simp only; omega)).symm.trans none)
  obtain ⟨r, rounded⟩ := Option.ne_none_iff_exists'.mp present
  exact ⟨r, rounded, units_of_roundUnits rounded⟩

theorem mantissa_lt_of_roundUnits {num den : Nat} {r : Magnitude} (positive : 0 < den)
    (rounded : roundUnits num den = some r) : r.mantissa < 2 ^ 53 := by
  rcases cases_roundUnits rounded with ⟨_, rfl⟩ | ⟨noCarry, rfl⟩
  · show 2 ^ 52 < 2 ^ 53
    decide
  · exact lt_of_le_of_ne (divNearestEven_le positive) noCarry

theorem exists_roundUnits {num den k : Nat} (positive : 0 < den)
    (small : num < 2 ^ (53 + k) * den) (inRange : k < maxScale) :
    ∃ r, roundUnits num den = some r ∧ Rounds (num / den / perOne) r := by
  obtain ⟨r, rounded, grid⟩ := exists_grid_of_roundUnits positive small inRange
  have quotient : (num / den / perOne : ℚ) * perOne = num / den :=
    div_mul_cancel₀ _ (Nat.cast_ne_zero.mpr perOne_pos.ne')
  have denPositive : (0 : ℚ) < den := Nat.cast_pos.mpr positive
  refine ⟨r, rounded, gridScale num den, fun k => ?_, grid ▸ Nat.dvd_mul_left _ _, ?_⟩
  · rw [quotient, div_lt_iff₀ denPositive, gridScale_le_iff positive]
    exact_mod_cast Iff.rfl
  · obtain ⟨low, high⟩ :=
      divNearestEven_error num (Nat.mul_pos positive (Nat.two_pow_pos (gridScale num den)))
    have low' : (r.units * den : ℚ) ≤ num + den * 2 ^ gridScale num den / 2 := by
      rw [grid]
      have cast : (_ : ℚ) ≤ _ := Nat.cast_le.mpr low
      push_cast at cast ⊢
      linarith
    have high' : (num : ℚ) ≤ r.units * den + den * 2 ^ gridScale num den / 2 := by
      rw [grid]
      have cast : (_ : ℚ) ≤ _ := Nat.cast_le.mpr high
      push_cast at cast ⊢
      linarith
    rw [quotient, abs_le]
    constructor
    · have bound : (num / den : ℚ) ≤ r.units + 2 ^ gridScale num den / 2 := by
        rw [div_le_iff₀ denPositive]
        linarith
      linarith
    · have bound : (r.units - 2 ^ gridScale num den / 2 : ℚ) ≤ num / den := by
        rw [le_div_iff₀ denPositive]
        linarith
      linarith

@[simp] theorem value_zero : zero.value = 0 := by
  rw [value, show zero.units = 0 from rfl, Nat.cast_zero, zero_div]

theorem rounds_zero : Rounds 0 zero := by
  have units : zero.units = 0 := rfl
  refine ⟨0, fun k => iff_of_true (Nat.zero_le k) ?_, units ▸ Nat.dvd_zero _, ?_⟩
  · rw [zero_mul]
    positivity
  · rw [units, Nat.cast_zero, zero_mul, sub_zero, abs_zero]
    positivity

/-! ## How far a rounding goes -/

theorem eq_of_grid {s a b : Nat} (left : 2 ^ s ∣ a) (right : 2 ^ s ∣ b)
    (near : |(a : ℚ) - b| < 2 ^ s) : a = b := by
  obtain ⟨x, rfl⟩ := left
  obtain ⟨y, rfl⟩ := right
  have step : (0 : ℚ) < 2 ^ s := by positivity
  have scaled : |(2 : ℚ) ^ s * (x - y)| < 2 ^ s * 1 := by
    push_cast at near
    rwa [mul_sub, mul_one]
  rw [abs_mul, abs_of_pos step] at scaled
  have close : |((x : ℤ) - y : ℤ)| < 1 := by exact_mod_cast lt_of_mul_lt_mul_left scaled step.le
  rw [Int.abs_lt_one_iff] at close
  rw [show x = y by omega]

/-- Whole numbers with at most 53 significant bits. -/
def IsShort (n : Nat) : Prop := ∀ k, 2 ^ (52 + k) ≤ n → 2 ^ k ∣ n

theorem isShort_mul_pow {m : Nat} (small : m < 2 ^ 53) (j : Nat) : IsShort (m * 2 ^ j) := by
  intro k large
  have below : 2 ^ (52 + k) < 2 ^ (53 + j) := by
    rw [Nat.pow_add 2 53]
    exact large.trans_lt (Nat.mul_lt_mul_of_pos_right small (Nat.two_pow_pos j))
  have fits : k ≤ j := by
    have := (Nat.pow_lt_pow_iff_right (Nat.lt_succ_self 1)).mp below
    omega
  exact Nat.dvd_mul_left_of_dvd (Nat.pow_dvd_pow 2 fits) m

theorem isShort_two_pow (j : Nat) : IsShort (2 ^ j) :=
  Nat.one_mul (2 ^ j) ▸ isShort_mul_pow (Nat.one_lt_two_pow (by decide)) j

theorem isShort_of_dvd {n j : Nat} (aligned : 2 ^ j ∣ n) (small : n < 2 ^ (53 + j)) :
    IsShort n := by
  obtain ⟨m, rfl⟩ := aligned
  rw [Nat.mul_comm, Nat.pow_add] at small
  rw [Nat.mul_comm]
  exact isShort_mul_pow (Nat.lt_of_mul_lt_mul_right small) j

theorem isShort_of_lt {n : Nat} (small : n < 2 ^ 53) : IsShort n := by
  have short := isShort_mul_pow small 0
  rwa [Nat.pow_zero, Nat.mul_one] at short

namespace Rounds

variable {v : ℚ} {r : Magnitude} {n : Nat}

theorem error_le (rounds : Rounds v r) {e : Nat} (small : v < 2 ^ e) :
    |r.value - v| ≤ 2 ^ e / 2 ^ 54 := by
  obtain ⟨s, grid, _, error⟩ := rounds
  have positive : (0 : ℚ) < perOne := Nat.cast_pos.mpr perOne_pos
  have split : (perOne : ℚ) = 2 ^ 53 * 2 ^ (depth - 53) := by
    rw [← pow_add, Nat.add_sub_cancel' (by rw [← depth_eq]; decide), perOne]
    exact_mod_cast rfl
  have coarse : s ≤ depth - 53 + e := by
    rw [grid, ← Nat.add_assoc, pow_add, pow_add, ← split, mul_comm]
    exact mul_lt_mul_of_pos_left small positive
  have step : (2 : ℚ) ^ s ≤ 2 ^ (depth - 53) * 2 ^ e := by
    rw [← pow_add]
    exact pow_le_pow_right₀ one_le_two coarse
  have same : r.value - v = (r.units - v * perOne) / perOne := by
    rw [value, sub_div, mul_div_cancel_right₀ _ positive.ne']
  rw [same, abs_div, abs_of_pos positive, div_le_iff₀ positive]
  calc |(r.units : ℚ) - v * perOne| ≤ 2 ^ s / 2 := error
    _ ≤ 2 ^ (depth - 53) * 2 ^ e / 2 := by linarith
    _ = 2 ^ e / 2 ^ 54 * perOne := by
        rw [split]
        ring

/-- A point of the grid that a number lies close to, is what the number is rounded to. -/
theorem units_eq (rounds : Rounds v r) {x k : Nat} (onGrid : 2 ^ k ∣ x) (low : 2 ^ (52 + k) ≤ x)
    (high : x ≤ 2 ^ (53 + k)) (near : |(x : ℚ) - v * perOne| < 2 ^ k / 4) : r.units = x := by
  obtain ⟨s, grid, aligned, error⟩ := rounds
  generalize v * perOne = q at grid error near
  obtain ⟨below, above⟩ := abs_lt.mp near
  have step : (0 : ℚ) < 2 ^ k := by positivity
  have low' : (2 : ℚ) ^ (52 + k) ≤ x := by exact_mod_cast low
  have high' : (x : ℚ) ≤ 2 ^ (53 + k) := by exact_mod_cast high
  rw [pow_add] at low' high'
  have upper : s ≤ k + 1 := by
    rw [grid, ← Nat.add_assoc, pow_succ, pow_add]
    linarith
  have lower : k ≤ s + 1 := by
    by_contra fine
    have small : q < 2 ^ (53 + s) := (grid s).mp (Nat.le_refl s)
    have gap : (2 : ℚ) ^ (s + 2) ≤ 2 ^ k := pow_le_pow_right₀ one_le_two (by omega)
    rw [pow_add] at small gap
    linarith
  -- the grid of the number may be coarser by one step, if the point is the end of the finer one
  have point : 2 ^ s ∣ x := by
    rcases Nat.lt_or_ge k s with coarse | fine
    · have beyond : (2 : ℚ) ^ (53 + k) ≤ q := by
        rw [← not_lt, ← grid]
        omega
      have isEnd : x = 2 ^ (53 + k) := by
        refine eq_of_grid onGrid (Nat.pow_dvd_pow 2 (by omega)) ?_
        rw [abs_lt]
        push_cast
        rw [pow_add] at beyond ⊢
        constructor <;> linarith
      rw [isEnd]
      exact Nat.pow_dvd_pow 2 (by omega)
    · exact (Nat.pow_dvd_pow 2 fine).trans onGrid
  refine eq_of_grid aligned point ?_
  have halved : (2 : ℚ) ^ k ≤ 2 * 2 ^ s := by
    rw [← pow_succ']
    exact pow_le_pow_right₀ one_le_two lower
  obtain ⟨errorLow, errorHigh⟩ := abs_le.mp error
  rw [abs_lt]
  constructor <;> linarith

/-- A number that lies close to a whole number of the format is rounded to it. -/
theorem value_eq_of_near (rounds : Rounds v r) (short : IsShort n) {i : Nat}
    (large : 2 ^ (52 + i) ≤ n) (near : |(n : ℚ) - v| < 2 ^ i / 4) : r.value = n := by
  have positive : (0 : ℚ) < perOne := Nat.cast_pos.mpr perOne_pos
  obtain ⟨j, above, low, high⟩ : ∃ j, i ≤ j ∧ 2 ^ (52 + j) ≤ n ∧ n < 2 ^ (53 + j) := by
    have filled : n ≠ 0 := ((Nat.two_pow_pos _).trans_le large).ne'
    have log : 52 + i ≤ n.log2 := (Nat.le_log2 filled).mpr large
    refine ⟨n.log2 - 52, by omega, ?_, ?_⟩
    · rw [Nat.add_sub_cancel' (by omega)]
      exact Nat.log2_self_le filled
    · rw [show 53 + (n.log2 - 52) = n.log2 + 1 by omega]
      exact Nat.lt_log2_self
  have scaled (m : Nat) : 2 ^ (m + (j + depth)) = 2 ^ (m + j) * perOne := by
    rw [← Nat.add_assoc, Nat.pow_add, perOne]
  have units : r.units = n * perOne := by
    refine rounds.units_eq (k := j + depth) ?_ ?_ ?_ ?_
    · rw [Nat.pow_add]
      exact Nat.mul_dvd_mul (short j low) (Nat.dvd_refl _)
    · rw [scaled]
      exact Nat.mul_le_mul_right _ low
    · rw [scaled]
      exact Nat.mul_le_mul_right _ high.le
    · have step : (2 ^ i * perOne : ℚ) ≤ 2 ^ (j + depth) := by
        have cast : ((2 ^ i * perOne : Nat) : ℚ) ≤ (2 ^ (j + depth) : Nat) := by
          rw [Nat.cast_le, Nat.pow_add]
          exact Nat.mul_le_mul_right _ (Nat.pow_le_pow_right (Nat.succ_pos 1) above)
        exact_mod_cast cast
      rw [Nat.cast_mul, ← sub_mul, abs_mul, abs_of_pos positive]
      calc |(n : ℚ) - v| * perOne < 2 ^ i / 4 * perOne := mul_lt_mul_of_pos_right near positive
        _ = 2 ^ i * perOne / 4 := by ring
        _ ≤ 2 ^ (j + depth) / 4 := by linarith
  rw [value, units, Nat.cast_mul, mul_div_cancel_right₀ _ positive.ne']

theorem value_eq (rounds : Rounds (n : ℚ) r) (short : IsShort n) : r.value = n := by
  rcases Nat.lt_or_ge n (2 ^ 52) with small | large
  · have positive : (0 : ℚ) < perOne := Nat.cast_pos.mpr perOne_pos
    obtain ⟨s, grid, aligned, error⟩ := rounds
    have fine : s ≤ depth := by
      rw [grid, pow_add]
      have bound : (n : ℚ) < 2 ^ 53 := by exact_mod_cast small.trans (by decide)
      have same : (perOne : ℚ) = 2 ^ depth := by exact_mod_cast rfl
      rw [← same]
      exact mul_lt_mul_of_pos_right bound positive
    have units : r.units = n * perOne := by
      refine eq_of_grid aligned (Nat.dvd_mul_left_of_dvd (Nat.pow_dvd_pow 2 fine) n) ?_
      rw [Nat.cast_mul]
      exact lt_of_le_of_lt error (half_lt_self (by positivity))
    rw [value, units, Nat.cast_mul, mul_div_cancel_right₀ _ positive.ne']
  · exact rounds.value_eq_of_near (i := 0) short large (by norm_num)

end Rounds

/-! ## The operations -/

section Operations

variable {a b : Magnitude} {num den e : Nat}

theorem exists_of_quotient (positive : 0 < den) (small : (num / den : ℚ) < 2 ^ e * perOne)
    (inRange : e < 1024) :
    ∃ r, roundUnits num den = some r ∧ Rounds (num / den / perOne) r := by
  have split : 53 + (e + depth - 53) = e + depth := by
    have := depth_eq
    omega
  refine exists_roundUnits positive (k := e + depth - 53) ?_ ?_
  · rw [split, Nat.pow_add, ← perOne]
    have scaled := (div_lt_iff₀ (Nat.cast_pos.mpr positive)).mp small
    exact_mod_cast scaled
  · have := depth_eq
    rw [maxScale]
    omega

theorem exists_ofFraction (positive : 0 < den) (small : (num / den : ℚ) < 2 ^ e)
    (inRange : e < 1024) : ∃ r, ofFraction num den = some r ∧ Rounds (num / den) r := by
  have onePositive : (0 : ℚ) < perOne := Nat.cast_pos.mpr perOne_pos
  have scaled : ((num * perOne : Nat) / den : ℚ) = num / den * perOne := by
    push_cast
    ring
  obtain ⟨r, rounded, rounds⟩ := @exists_of_quotient (num * perOne) den e positive
    (scaled ▸ mul_lt_mul_of_pos_right small onePositive) inRange
  rw [scaled, mul_div_cancel_right₀ _ onePositive.ne'] at rounds
  exact ⟨r, by rw [ofFraction_eq, rounded], rounds⟩

theorem exists_add (small : a.value + b.value < 2 ^ e) (inRange : e < 1024) :
    ∃ r, a.add b = some r ∧ Rounds (a.value + b.value) r := by
  have onePositive : (0 : ℚ) < perOne := Nat.cast_pos.mpr perOne_pos
  have scaled : ((a.units + b.units : Nat) / (1 : Nat) : ℚ) = (a.value + b.value) * perOne := by
    rw [value, value]
    push_cast
    field_simp
  obtain ⟨r, rounded, rounds⟩ := exists_of_quotient Nat.one_pos
    (scaled ▸ mul_lt_mul_of_pos_right small onePositive) inRange
  rw [scaled, mul_div_cancel_right₀ _ onePositive.ne'] at rounds
  exact ⟨r, rounded, rounds⟩

theorem exists_mul (small : a.value * b.value < 2 ^ e) (inRange : e < 1024) :
    ∃ r, a.mul b = some r ∧ Rounds (a.value * b.value) r := by
  have onePositive : (0 : ℚ) < perOne := Nat.cast_pos.mpr perOne_pos
  have scaled : ((a.units * b.units : Nat) / perOne : ℚ) = a.value * b.value * perOne := by
    rw [value, value]
    push_cast
    field_simp
  obtain ⟨r, rounded, rounds⟩ := exists_of_quotient perOne_pos
    (scaled ▸ mul_lt_mul_of_pos_right small onePositive) inRange
  rw [scaled, mul_div_cancel_right₀ _ onePositive.ne'] at rounds
  exact ⟨r, by rw [mul_eq, rounded], rounds⟩

end Operations

/-- The nearest whole number is the one less than a half away. -/
theorem round_eq_of_near {m : Magnitude} {n : Nat} (near : |m.value - n| < 1 / 2) :
    m.round = n := by
  have positive : (0 : ℚ) < perOne := Nat.cast_pos.mpr perOne_pos
  have units : m.value * perOne = m.units := div_mul_cancel₀ _ positive.ne'
  obtain ⟨low, high⟩ := abs_lt.mp near
  have low' : ((n : ℚ) - 1 / 2) * perOne < m.units :=
    units ▸ mul_lt_mul_of_pos_right (by linarith) positive
  have high' : (m.units : ℚ) < (n + 1 / 2) * perOne :=
    units ▸ mul_lt_mul_of_pos_right (by linarith) positive
  rw [round_eq]
  refine Nat.div_eq_of_lt_le ?_ ?_
  · have cast : ((n * (2 * perOne) : Nat) : ℚ) ≤ (2 * m.units + perOne : Nat) := by
      push_cast
      linarith
    exact_mod_cast cast
  · have cast : ((2 * m.units + perOne : Nat) : ℚ) < ((n + 1) * (2 * perOne) : Nat) := by
      push_cast
      linarith
    exact_mod_cast cast

/-- The nearest whole number of a number of the format has few significant bits itself. -/
theorem isShort_round {m : Magnitude} (narrow : m.mantissa < 2 ^ 53) : IsShort m.round := by
  rcases Nat.le_total depth m.scale with whole | pointed
  · obtain ⟨j, split⟩ := Nat.exists_eq_add_of_le whole
    have value : m.value = (m.mantissa * 2 ^ j : Nat) := by
      have units : m.units = m.mantissa * 2 ^ j * perOne := by
        rw [units, Nat.pow_eq, split, Nat.pow_add, perOne, Nat.mul_assoc, Nat.mul_comm (2 ^ j)]
      have positive : (perOne : ℚ) ≠ 0 := Nat.cast_ne_zero.mpr perOne_pos.ne'
      rw [Magnitude.value, units, Nat.cast_mul _ perOne, mul_div_cancel_right₀ _ positive]
    have rounded : m.round = m.mantissa * 2 ^ j := by
      refine round_eq_of_near ?_
      rw [value, sub_self, abs_zero]
      norm_num
    rw [rounded]
    exact isShort_mul_pow narrow j
  · refine isShort_of_lt ?_
    have units : m.units ≤ (2 ^ 53 - 1) * perOne :=
      Nat.mul_le_mul (Nat.le_sub_one_of_lt narrow) (Nat.pow_le_pow_right (Nat.succ_pos 1) pointed)
    have positive := perOne_pos
    rw [round_eq, Nat.div_lt_iff_lt_mul (by omega)]
    have split : 2 ^ 53 * (2 * perOne) = 2 * ((2 ^ 53 - 1) * perOne) + 2 * perOne := by omega
    omega

end Magnitude

/-- A decimal with few digits is rounded like a fraction. -/
theorem Decimal.exists_toMagnitude {digits places e : Nat} (few : digits < 10 ^ 100)
    (near : places ≤ 100) (small : (digits / 10 ^ places : ℚ) < 2 ^ e) (inRange : e < 1024) :
    ∃ r, Decimal.toMagnitude ⟨digits, -(places : Int)⟩ = some r ∧
      Magnitude.Rounds (digits / 10 ^ places) r := by
  have narrow : Decimal.width digits ≤ 100 := by
    unfold Decimal.width
    split
    · exact Nat.zero_le _
    · exact (Nat.length_toDigits_le_iff (by decide) (by decide)).mpr few
  by_cases none : digits = 0
  · subst none
    refine ⟨.zero, rfl, ?_⟩
    rw [Nat.cast_zero, zero_div]
    exact Magnitude.rounds_zero
  · have notHuge : ¬400 < (Decimal.width digits : Int) + -(places : Int) := by omega
    have notTiny : ¬(Decimal.width digits : Int) + -(places : Int) < -400 := by omega
    unfold Decimal.toMagnitude
    simp only [none, notHuge, notTiny, if_false]
    cases places with
    | zero =>
        rw [pow_zero, div_one] at small ⊢
        have whole : (digits / (1 : Nat) : ℚ) = digits := by rw [Nat.cast_one, div_one]
        have fraction := Magnitude.exists_ofFraction Nat.one_pos (whole ▸ small) inRange
        rw [whole] at fraction
        have power : digits * Nat.pow 10 (-((0 : Nat) : Int)).toNat = digits := Nat.mul_one digits
        rwa [if_pos (by decide), power]
    | succ places =>
        have sign : ¬(0 : Int) ≤ -((places + 1 : Nat) : Int) := by omega
        have power : Nat.pow 10 (- -((places + 1 : Nat) : Int)).toNat = 10 ^ (places + 1) := by
          rw [Int.neg_neg, Int.toNat_natCast, Nat.pow_eq]
        have cast : ((10 ^ (places + 1) : Nat) : ℚ) = 10 ^ (places + 1) := by push_cast; rfl
        rw [if_neg sign, power, ← cast]
        exact Magnitude.exists_ofFraction (Nat.pow_pos (Nat.succ_pos 9)) (cast ▸ small) inRange

end LayeredConfig.Number
