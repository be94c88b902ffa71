import LayeredConfig.Proofs.Number.Rounding

/-!
# Rounding whole numbers

Sums and products of whole numbers are whole, and rounding one gives the nearest
whole number with at most 53 significant bits.  So a computation on whole numbers
in the binary format can be followed in natural numbers alone.  Where it leaves
the range of the format, the number followed is at least `2 ^ 200`.

Main statements: `nearestShort_closest`, `Stands.mul`, `Stands.add`.
-/

namespace LayeredConfig.Number

theorem divNearestEven_mul_right (num den : Nat) {k : Nat} (positive : 0 < k) :
    divNearestEven (num * k) (den * k) = divNearestEven num den := by
  unfold divNearestEven
  simp only [Nat.mul_div_mul_right num den positive, Nat.mul_mod_mul_right, ← Nat.mul_assoc,
    Nat.mul_lt_mul_right positive]

theorem divNearestEven_of_dvd {num den : Nat} (positive : 0 < den) (exact : den ∣ num) :
    divNearestEven num den * den = num := by
  unfold divNearestEven
  rw [Nat.mod_eq_zero_of_dvd exact, Nat.mul_zero, if_pos positive, Nat.div_mul_cancel exact]

namespace Magnitude

variable {a b n : Nat} {r : Magnitude}

/-! ## The nearest short number -/

/-- The nearest whole number with at most 53 significant bits; of two that are equally near, the one
with the even mantissa. -/
def nearestShort (n : Nat) : Nat :=
  divNearestEven n (2 ^ gridScale n 1) * 2 ^ gridScale n 1

theorem gridScale_one_le_iff {k : Nat} : gridScale n 1 ≤ k ↔ n < 2 ^ (53 + k) := by
  rw [gridScale_le_iff Nat.one_pos, Nat.mul_one]

theorem le_of_gridScale_one {k : Nat} (scale : gridScale n 1 = k + 1) : 2 ^ (53 + k) ≤ n := by
  rw [← Nat.not_lt, ← gridScale_one_le_iff, scale]
  omega

theorem isShort_nearestShort (n : Nat) : IsShort (nearestShort n) := by
  have mantissa : divNearestEven n (1 * 2 ^ gridScale n 1) ≤ 2 ^ 53 := divNearestEven_le Nat.one_pos
  rw [Nat.one_mul] at mantissa
  rcases Nat.lt_or_eq_of_le mantissa with below | carry
  · exact isShort_mul_pow below _
  · rw [nearestShort, carry, show 2 ^ 53 = 2 ^ 52 * 2 ^ 1 from rfl, Nat.mul_assoc, ← Nat.pow_add]
    exact isShort_mul_pow (by decide) _

/-- Among the points of its grid. -/
theorem nearestShort_closest_point (n c : Nat) :
    ((nearestShort n : ℤ) - n).natAbs ≤ ((c * 2 ^ gridScale n 1 : Nat) - (n : ℤ)).natAbs := by
  have step := Nat.two_pow_pos (gridScale n 1)
  obtain ⟨low, high⟩ := divNearestEven_error n step
  unfold nearestShort
  generalize 2 ^ gridScale n 1 = g at *
  generalize divNearestEven n g = q at *
  have apart : c * g + g ≤ q * g ∨ c = q ∨ q * g + g ≤ c * g := by
    rcases Nat.lt_trichotomy c q with less | same | more
    · exact Or.inl (Nat.succ_mul c g ▸ Nat.mul_le_mul_right g less)
    · exact Or.inr (Or.inl same)
    · exact Or.inr (Or.inr (Nat.succ_mul q g ▸ Nat.mul_le_mul_right g more))
  rcases apart with less | rfl | more
  · omega
  · exact Nat.le_refl _
  · omega

/-- No short number is nearer. -/
theorem nearestShort_closest {m : Nat} (short : IsShort m) :
    ((nearestShort n : ℤ) - n).natAbs ≤ ((m : ℤ) - n).natAbs := by
  by_cases aligned : 2 ^ gridScale n 1 ∣ m
  · obtain ⟨c, rfl⟩ := aligned
    rw [Nat.mul_comm]
    exact nearestShort_closest_point n c
  · -- a short number off the grid lies below the first number with this grid
    have below : m < 2 ^ (52 + gridScale n 1) := by
      rw [← Nat.not_le]
      exact fun large => aligned (short _ large)
    cases scale : gridScale n 1 with
    | zero => exact absurd (scale ▸ Nat.one_dvd m) aligned
    | succ k =>
        have large := le_of_gridScale_one scale
        have first := nearestShort_closest_point n (2 ^ 52)
        rw [← Nat.pow_add] at first
        have same : 52 + gridScale n 1 = 53 + k := by omega
        rw [same] at first below
        omega

theorem nearestShort_eq_self (short : IsShort n) : nearestShort n = n := by
  have close := nearestShort_closest (n := n) short
  omega

/-- Rounding does not go below a short number. -/
theorem le_nearestShort (short : IsShort a) (le : a ≤ n) : a ≤ nearestShort n := by
  have close := nearestShort_closest (n := n) short
  omega

theorem huge_nearestShort (huge : 2 ^ 200 ≤ n) : 2 ^ 200 ≤ nearestShort n :=
  le_nearestShort (isShort_two_pow 200) huge

/-- The part of a number that rounding keeps at least. -/
def kept : ℚ := 1 - 1 / 2 ^ 53

theorem kept_nonneg : 0 ≤ kept := by norm_num [kept]

theorem kept_le_one : kept ≤ 1 := by norm_num [kept]

theorem one_sub_le_kept_pow (n : Nat) : 1 - (n : ℚ) / 2 ^ 53 ≤ kept ^ n := by
  have bernoulli := one_add_mul_le_pow (by norm_num : (-2 : ℚ) ≤ -(1 / 2 ^ 53)) n
  rwa [mul_neg, mul_one_div, ← sub_eq_add_neg, ← sub_eq_add_neg, ← kept] at bernoulli

theorem kept_mul_le_nearestShort (n : Nat) : (n : ℚ) * kept ≤ nearestShort n := by
  cases scale : gridScale n 1 with
  | zero =>
      have exact := nearestShort_eq_self (isShort_of_lt (gridScale_one_le_iff.mp scale.le))
      rw [exact]
      exact mul_le_of_le_one_right (Nat.cast_nonneg n) kept_le_one
  | succ k =>
      have large : ((2 ^ (53 + k) : Nat) : ℚ) ≤ n := Nat.cast_le.mpr (le_of_gridScale_one scale)
      have error := (divNearestEven_error n (Nat.two_pow_pos (gridScale n 1))).2
      have near : ((2 * n : Nat) : ℚ) ≤ (2 * nearestShort n + 2 ^ gridScale n 1 : Nat) :=
        Nat.cast_le.mpr error
      rw [scale] at near
      unfold kept
      push_cast [pow_add, pow_succ] at large near ⊢
      linarith

/-! ## Operations in the format -/

theorem value_eq_natCast_iff : r.value = n ↔ r.units = n * perOne := by
  have positive : (perOne : ℚ) ≠ 0 := Nat.cast_ne_zero.mpr perOne_pos.ne'
  rw [value, div_eq_iff positive]
  exact_mod_cast Iff.rfl

/-- An operation in the format follows one on whole numbers: its result is the number, or there is
none and the number is huge. -/
inductive Stands : Option Magnitude → Nat → Prop
  | number {r : Magnitude} {n : Nat} : r.value = n → Stands (some r) n
  | beyond {n : Nat} : 2 ^ 200 ≤ n → Stands none n

theorem roundUnits_mul_right (num : Nat) {den : Nat} (positive : 0 < den) :
    roundUnits (num * den) den = roundUnits num 1 := by
  have scale : gridScale (num * den) den = gridScale num 1 := by
    rw [gridScale, gridScale, Nat.mul_div_cancel num positive, Nat.div_one]
  have mantissa : divNearestEven (num * den) (den * 2 ^ gridScale num 1) =
      divNearestEven num (1 * 2 ^ gridScale num 1) := by
    rw [Nat.mul_comm den, divNearestEven_mul_right _ _ positive, Nat.one_mul]
  rw [roundUnits_eq, roundUnits_eq, scale]
  simp only [mantissa]

/-- Units of a whole number are rounded as the number itself. -/
theorem units_nearestShort (n : Nat) :
    divNearestEven (n * perOne) (2 ^ gridScale (n * perOne) 1) * 2 ^ gridScale (n * perOne) 1 =
      nearestShort n * perOne := by
  rcases Nat.lt_or_ge n (2 ^ 53) with small | large
  · have fine : gridScale (n * perOne) 1 ≤ depth := by
      rw [gridScale_one_le_iff, Nat.pow_add]
      exact Nat.mul_lt_mul_of_pos_right small perOne_pos
    rw [nearestShort_eq_self (isShort_of_lt small)]
    exact divNearestEven_of_dvd (Nat.two_pow_pos _)
      (Nat.dvd_mul_left_of_dvd (Nat.pow_dvd_pow 2 fine) n)
  · have scale : gridScale (n * perOne) 1 = gridScale n 1 + depth := by
      refine Nat.le_antisymm (gridScale_one_le_iff.mpr ?_) ?_
      · rw [← Nat.add_assoc, Nat.pow_add]
        exact Nat.mul_lt_mul_of_pos_right (gridScale_one_le_iff.mp (Nat.le_refl _)) perOne_pos
      · cases own : gridScale n 1 with
        | zero =>
            have least := gridScale_one_le_iff.mp own.le
            omega
        | succ k =>
            rw [← Nat.not_lt, Nat.lt_iff_le_pred (by omega), gridScale_one_le_iff]
            have next : 53 + (k + 1 + depth - 1) = 53 + k + depth := by omega
            rw [next, Nat.pow_add, Nat.not_lt]
            exact Nat.mul_le_mul_right perOne (le_of_gridScale_one own)
    rw [scale, Nat.pow_add, ← perOne, divNearestEven_mul_right _ _ perOne_pos, ← Nat.mul_assoc]
    rfl

theorem stands_roundUnits (n : Nat) : Stands (roundUnits (n * perOne) 1) (nearestShort n) := by
  cases rounded : roundUnits (n * perOne) 1 with
  | some r =>
      have units := units_of_roundUnits rounded
      rw [Nat.one_mul, units_nearestShort] at units
      exact .number (value_eq_natCast_iff.mpr units)
  | none =>
      refine .beyond (huge_nearestShort (Nat.le_of_not_lt fun small => ?_))
      have inRange : n * perOne < 2 ^ (53 + (147 + depth)) * 1 := by
        rw [Nat.mul_one, ← Nat.add_assoc, Nat.pow_add]
        exact Nat.mul_lt_mul_of_pos_right small perOne_pos
      obtain ⟨r, found, _⟩ := exists_grid_of_roundUnits Nat.one_pos inRange
        (by rw [← depth_eq]; decide)
      cases rounded.symm.trans found

namespace Stands

variable {o o' : Option Magnitude}

theorem mul (stands : Stands o a) (value : r.value = b) (positive : 0 < b) :
    Stands (o.bind fun x => x.mul r) (nearestShort (a * b)) := by
  cases stands with
  | number own =>
      rw [Option.bind_some, mul_eq, value_eq_natCast_iff.mp own, value_eq_natCast_iff.mp value,
        ← Nat.mul_assoc, roundUnits_mul_right _ perOne_pos, Nat.mul_right_comm]
      exact stands_roundUnits (a * b)
  | beyond huge =>
      exact .beyond (huge_nearestShort (huge.trans (Nat.le_mul_of_pos_right a positive)))

theorem add (first : Stands o a) (second : Stands o' b) :
    Stands (o.bind fun x => o'.bind fun y => x.add y) (nearestShort (a + b)) := by
  cases first with
  | beyond huge => exact .beyond (huge_nearestShort (huge.trans (Nat.le_add_right a b)))
  | number own =>
      cases second with
      | beyond huge => exact .beyond (huge_nearestShort (huge.trans (Nat.le_add_left b a)))
      | number other =>
          rw [Option.bind_some, Option.bind_some, Magnitude.add, value_eq_natCast_iff.mp own,
            value_eq_natCast_iff.mp other, ← Nat.add_mul]
          exact stands_roundUnits (a + b)

end Stands

end Magnitude

/-- A whole number is read as the nearest short one. -/
theorem Decimal.stands_toMagnitude (n : Nat) :
    Magnitude.Stands (toMagnitude ⟨n, 0⟩) (Magnitude.nearestShort n) := by
  unfold toMagnitude
  simp only
  split
  next none =>
    subst none
    exact .number (by rw [Magnitude.value_zero]; rfl)
  next some =>
    split
    next large =>
      have wide : 10 ^ 200 ≤ n := by
        rw [← Nat.not_lt, ← Nat.length_toDigits_le_iff (by decide) (by decide)]
        unfold width at large
        rw [if_neg some] at large
        omega
      have huge : 2 ^ 200 ≤ 10 ^ 200 := Nat.pow_le_pow_left (by decide) 200
      exact .beyond (Magnitude.huge_nearestShort (huge.trans wide))
    next =>
      rw [if_neg (by omega), if_pos (Int.le_refl 0), Magnitude.ofFraction_eq]
      have power : n * Nat.pow 10 (0 : Int).toNat = n := Nat.mul_one n
      rw [power]
      exact Magnitude.stands_roundUnits n

end LayeredConfig.Number
