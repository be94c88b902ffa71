import LayeredConfig.Proofs.Duration.RoundTrip
import LayeredConfig.Proofs.Number.Whole

/-!
# The limit of durations

Numbers without points are whole, so the sum that they stand for can be followed
in natural numbers: every number, every product with a unit and every sum is
rounded to a short number.  The limit is tested on what comes out.  The exact sum
decides only where it is further above the limit than the rounding may take away,
and that grows with the number of pieces.

Main statements: `Piece.le_roundedSum`, `read_at_limit`, `exists_read_beyond`.
-/

namespace LayeredConfig.Duration

open Text Number

/-! ## Rounded sums -/

theorem Part.stands_magnitude {part : Part} (decimal : part.IsDecimal)
    (whole : part.fraction = []) :
    Magnitude.Stands part.magnitude
      (Magnitude.nearestShort (Magnitude.nearestShort part.digits * part.unit.nanos)) := by
  obtain ⟨unit, unitRead, unitValue⟩ := exists_unit part.unit
  have product := (Decimal.stands_toMagnitude part.digits).mul unitValue (nanos_pos part.unit)
  rw [digits] at product ⊢
  rw [magnitude, digitsFrom_eq decimal]
  simp only [whole, List.length_nil, Nat.cast_zero, neg_zero, unitRead, Option.bind_eq_bind,
    Option.bind_some] at product ⊢
  exact product

namespace Piece

variable {p : Piece} {part : Part} {pieces : List Piece} {parts : List Part}

def unitNanos (p : Piece) : Nat := ((TimeUnit.names.lookup p.unit).map TimeUnit.nanos).getD 0

/-- Nanoseconds of a piece whose number has no point, as they are computed. -/
def roundedNanos (p : Piece) : Nat :=
  Magnitude.nearestShort (Magnitude.nearestShort (Nat.ofDigitChars 10 p.number 0) * p.unitNanos)

def addRounded (sum : Nat) (p : Piece) : Nat := Magnitude.nearestShort (sum + p.roundedNanos)

/-- Nanoseconds of pieces without a point, as they are computed. -/
def roundedSum (pieces : List Piece) : Nat := pieces.foldl addRounded 0

theorem nanos_eq (p : Piece) : p.nanos = Nat.ofDigitChars 10 p.number 0 * p.unitNanos := rfl

theorem Spells.stands_magnitude (spells : p.Spells part) (noPoint : '.' ∉ p.number) :
    Magnitude.Stands part.magnitude p.roundedNanos := by
  obtain ⟨decimal, whole, digits⟩ := spells.digits noPoint
  have unitNanos : p.unitNanos = part.unit.nanos := by
    rw [Piece.unitNanos, spells.lookup]
    rfl
  rw [roundedNanos, unitNanos, ← digits]
  exact Part.stands_magnitude decimal whole

/-- Adding part by part follows the rounded sum, also beyond the range of the format. -/
theorem stands_foldlM (each : List.Forall₂ Spells pieces parts)
    (noPoint : ∀ p ∈ pieces, '.' ∉ p.number) {start : Option Magnitude} {n : Nat}
    (begun : Magnitude.Stands start n) :
    Magnitude.Stands (start.bind fun begin =>
      parts.foldlM (fun sum part => do sum.add (← part.magnitude)) begin)
      (pieces.foldl addRounded n) := by
  induction each generalizing start n with
  | nil => simpa using begun
  | cons spells _ ih =>
      obtain ⟨here, later⟩ := List.forall_mem_cons.mp noPoint
      have next := ih later (begun.add (spells.stands_magnitude here))
      rw [Option.bind_assoc] at next
      exact next

theorem stands_total (each : List.Forall₂ Spells pieces parts)
    (noPoint : ∀ p ∈ pieces, '.' ∉ p.number) :
    Magnitude.Stands (Part.total parts) (roundedSum pieces) :=
  stands_foldlM each noPoint (.number Magnitude.value_zero)

/-! ## What the rounding may take away -/

theorem le_roundedNanos (p : Piece) : p.nanos * Magnitude.kept ^ 2 ≤ p.roundedNanos := by
  have number := Magnitude.kept_mul_le_nearestShort (Nat.ofDigitChars 10 p.number 0)
  have product := Magnitude.kept_mul_le_nearestShort
    (Magnitude.nearestShort (Nat.ofDigitChars 10 p.number 0) * p.unitNanos)
  rw [← roundedNanos, Nat.cast_mul] at product
  refine le_trans ?_ product
  calc (p.nanos : ℚ) * Magnitude.kept ^ 2
      = Nat.ofDigitChars 10 p.number 0 * Magnitude.kept * p.unitNanos * Magnitude.kept := by
        rw [nanos_eq, Nat.cast_mul]
        ring
    _ ≤ Magnitude.nearestShort (Nat.ofDigitChars 10 p.number 0) * p.unitNanos *
          Magnitude.kept := by
        have unit : (0 : ℚ) ≤ p.unitNanos := Nat.cast_nonneg _
        exact mul_le_mul_of_nonneg_right (mul_le_mul_of_nonneg_right number unit)
          Magnitude.kept_nonneg

/-- Every step keeps its part of the sum so far and of all that is still to come. -/
theorem le_foldl_addRounded (pieces : List Piece) (n : Nat) :
    (n + (pieces.map nanos).sum * Magnitude.kept ^ 2) * Magnitude.kept ^ pieces.length ≤
      (pieces.foldl addRounded n : Nat) := by
  induction pieces generalizing n with
  | nil => simp
  | cons p others ih =>
      have nonneg := Magnitude.kept_nonneg
      have here := le_roundedNanos p
      have added := Magnitude.kept_mul_le_nearestShort (n + p.roundedNanos)
      rw [← addRounded, Nat.cast_add] at added
      have first : (n + p.nanos * Magnitude.kept ^ 2) * Magnitude.kept ≤ addRounded n p :=
        le_trans (mul_le_mul_of_nonneg_right (by linarith) nonneg) added
      have rest : (others.map nanos).sum * Magnitude.kept ^ 2 * Magnitude.kept ≤
          (others.map nanos).sum * Magnitude.kept ^ 2 :=
        mul_le_of_le_one_right (by positivity) Magnitude.kept_le_one
      rw [List.map_cons, List.sum_cons, List.length_cons, List.foldl_cons,
        pow_succ' _ others.length, ← mul_assoc]
      refine le_trans ?_ (ih (addRounded n p))
      refine mul_le_mul_of_nonneg_right ?_ (pow_nonneg nonneg _)
      rw [Nat.cast_add]
      linarith

/-- A number is rounded once, its product with the unit once, and a sum once for each piece. -/
theorem le_roundedSum (pieces : List Piece) :
    (pieces.map nanos).sum * (1 - (pieces.length + 2 : ℚ) / 2 ^ 53) ≤ roundedSum pieces := by
  have bernoulli := Magnitude.one_sub_le_kept_pow (pieces.length + 2)
  have steps := le_foldl_addRounded pieces 0
  rw [Nat.cast_zero, zero_add, mul_assoc, ← pow_add, Nat.add_comm] at steps
  refine le_trans (mul_le_mul_of_nonneg_left ?_ (Nat.cast_nonneg _)) steps
  exact_mod_cast bernoulli

end Piece

/-! ## The test of the limit -/

theorem bind_ofTotal {o : Option Magnitude} {n : Nat} (stands : Magnitude.Stands o n) :
    o.bind ofTotal = if 2 ^ 64 < n then none else some ⟨min n maxNanos⟩ := by
  cases stands with
  | beyond huge =>
      have above : 2 ^ 64 < n := (by decide : 2 ^ 64 < 2 ^ 200).trans_le huge
      rw [if_pos above, Option.bind_none]
  | @number r _ value =>
      have inRange : r.value ≤ 2 ^ 64 ↔ n ≤ 2 ^ 64 := by
        rw [value]
        exact_mod_cast Iff.rfl
      have round : r.round = n := Magnitude.round_eq_of_near (by
        rw [value, sub_self, abs_zero]
        norm_num)
      rw [Option.bind_some]
      split_ifs with above
      · refine Option.eq_none_iff_forall_ne_some.mpr fun d found => ?_
        exact absurd (inRange.mp (ofTotal_eq_some_iff.mp found).1) (Nat.not_le.mpr above)
      · exact ofTotal_eq_some_iff.mpr ⟨inRange.mpr (Nat.le_of_not_lt above), by rw [round]⟩

theorem readUnsigned_of_roundedSum {pieces : List Piece} (filled : pieces ≠ [])
    (written : ∀ p ∈ pieces, p.IsWritten) (noPoint : ∀ p ∈ pieces, '.' ∉ p.number) :
    readUnsigned (pieces.flatMap Piece.text) =
      if 2 ^ 64 < Piece.roundedSum pieces then none
      else some ⟨min (Piece.roundedSum pieces) maxNanos⟩ := by
  obtain ⟨parts, each⟩ := exists_parts written
  rw [readUnsigned_of_spells filled each]
  exact bind_ofTotal (Piece.stands_total each noPoint)

/-- Pieces that are refused are neither blank nor negative text. -/
theorem read_eq_invalid {raw : String} {pieces : List Piece}
    (tiles : Piece.Tiles pieces (unsigned raw)) (refused : readUnsigned (unsigned raw) = none) :
    read raw = .error (.invalid raw) := by
  obtain ⟨filled, written, joined⟩ := Piece.tiles_iff.mp tiles
  obtain ⟨shape, _⟩ | ⟨rest, shape, _⟩ | ⟨_, _, _, _, ⟨d, accepted⟩ | invalid⟩ := read_cases raw
  · rw [unsigned, shape] at joined
    obtain ⟨p, member⟩ := List.exists_mem_of_ne_nil pieces filled
    exact absurd (List.flatMap_eq_nil_iff.mp joined p member) (written p member).text_ne_nil
  · rw [unsigned, shape] at joined
    have opens := Piece.opens_flatMap_text written
    rw [joined] at opens
    exact absurd (opens '-' rfl) (by decide)
  · cases refused.symm.trans (read_eq_ok_iff_unsigned.mp accepted)
  · exact invalid

/-- What is computed decides, whatever the exact sum is. -/
theorem read_of_roundedSum {raw : String} {pieces : List Piece}
    (tiles : Piece.Tiles pieces (unsigned raw)) (noPoint : ∀ p ∈ pieces, '.' ∉ p.number) :
    read raw = if 2 ^ 64 < Piece.roundedSum pieces then .error (.invalid raw)
      else .ok ⟨min (Piece.roundedSum pieces) maxNanos⟩ := by
  obtain ⟨filled, written, joined⟩ := Piece.tiles_iff.mp tiles
  have taken := readUnsigned_of_roundedSum filled written noPoint
  rw [joined] at taken
  split_ifs at taken ⊢ with above
  · exact read_eq_invalid tiles taken
  · exact read_eq_ok_iff_unsigned.mpr taken

/-- A text without points at the limit.  It is refused exactly if the rounded sum is above
`2 ^ 64`.  At `2 ^ 64` it is taken for the largest duration, below it is taken for the rounded sum.
The exact sum decides where it is above the limit by more than the rounding of all pieces may take
away. -/
theorem read_at_limit {raw : String} {pieces : List Piece}
    (tiles : Piece.Tiles pieces (unsigned raw)) (noPoint : ∀ p ∈ pieces, '.' ∉ p.number) :
    (read raw = .error (.invalid raw) ↔ 2 ^ 64 < Piece.roundedSum pieces) ∧
    (Piece.roundedSum pieces = 2 ^ 64 → read raw = .ok ⟨maxNanos⟩) ∧
    (Piece.roundedSum pieces < 2 ^ 64 → read raw = .ok ⟨Piece.roundedSum pieces⟩) ∧
    (2 ^ 64 < (pieces.map Piece.nanos).sum * (1 - (pieces.length + 2 : ℚ) / 2 ^ 53) →
      read raw = .error (.invalid raw)) := by
  have result := read_of_roundedSum tiles noPoint
  refine ⟨?_, fun limit => ?_, fun below => ?_, fun beyond => ?_⟩
  · rw [result]
    split_ifs with above
    · exact iff_of_true rfl above
    · exact iff_of_false nofun above
  · rw [result, limit]
    rfl
  · have fits : Piece.roundedSum pieces ≤ maxNanos := Nat.le_sub_one_of_lt below
    rw [result, if_neg below.not_gt, Nat.min_eq_left fits]
  · have above := beyond.trans_le (Piece.le_roundedSum pieces)
    rw [result, if_pos (by exact_mod_cast above)]

/-- Hours that are clearly too many, and a sum that is one nanosecond too large. -/
theorem read_at_limit_hours : read " 5124096h" = .error (.invalid " 5124096h") ∧
    read "+5124095h2073709551616ns" = .ok ⟨maxNanos⟩ := by
  constructor
  · have tiles : Piece.Tiles [⟨"5124096".toList, ['h']⟩] (unsigned " 5124096h") :=
      .last (by decide)
    have sum : ([⟨"5124096".toList, ['h']⟩].map Piece.nanos).sum = 18446745600000000000 := by decide
    refine (read_at_limit tiles (by decide)).2.2.2 ?_
    rw [sum]
    norm_num
  · have first : (⟨"5124095".toList, ['h']⟩, "2073709551616ns".toList) ∈
        Piece.ways (unsigned "+5124095h2073709551616ns") := by decide
    have tiles : Piece.Tiles [⟨"5124095".toList, ['h']⟩, ⟨"2073709551616".toList, ['n', 's']⟩]
        (unsigned "+5124095h2073709551616ns") := .more first (.last (by decide))
    exact (read_at_limit tiles (by decide)).2.1 (by decide +kernel)

/-- The first count beyond the largest is read as the largest. -/
theorem read_first_beyond : ∃ pieces,
    Piece.Tiles pieces (unsigned "18446744073709551616ns") ∧ (∀ p ∈ pieces, '.' ∉ p.number) ∧
    (pieces.map Piece.nanos).sum = maxNanos + 1 ∧
    read "18446744073709551616ns" = .ok ⟨maxNanos⟩ :=
  ⟨[⟨"18446744073709551616".toList, ['n', 's']⟩], .last (by decide), by decide, by decide,
    by decide +kernel⟩

/-! ## Lost pieces -/

namespace Piece

variable {first p : Piece}

theorem isWritten_of_digits {number unit : List Char} (filled : number ≠ [])
    (each : IsDigits number) (named : unit ∈ TimeUnit.names.map Prod.fst) :
    IsWritten ⟨number, unit⟩ := ⟨⟨_, _, .digits filled each⟩, named⟩

theorem foldl_replicate_of_lost {n : Nat} (lost : addRounded n p = n) (k : Nat) :
    (List.replicate k p).foldl addRounded n = n := by
  induction k with
  | zero => rfl
  | succ k ih => rw [List.replicate_succ, List.foldl_cons, lost, ih]

/-- A piece that is rounded away may be repeated as often as one likes. -/
theorem roundedSum_of_lost (lost : addRounded first.roundedNanos p = first.roundedNanos) (k : Nat) :
    roundedSum (first :: List.replicate k p) = first.roundedNanos := by
  have begun : addRounded 0 first = first.roundedNanos := by
    rw [addRounded, Nat.zero_add]
    exact Magnitude.nearestShort_eq_self (Magnitude.isShort_nearestShort _)
  rw [roundedSum, List.foldl_cons, begun, foldl_replicate_of_lost lost]

end Piece

/-- Behind a large piece, any number of small ones leaves the duration as it is. -/
theorem exists_read_of_lost (first p : Piece) (firstWritten : first.IsWritten ∧ '.' ∉ first.number)
    (written : p.IsWritten ∧ '.' ∉ p.number)
    (lost : Piece.addRounded first.roundedNanos p = first.roundedNanos)
    (below : first.roundedNanos < 2 ^ 64) (k : Nat) :
    ∃ raw, Piece.Tiles (first :: List.replicate k p) (unsigned raw) ∧
      (∀ q ∈ first :: List.replicate k p, '.' ∉ q.number) ∧
      read raw = .ok ⟨first.roundedNanos⟩ := by
  have each : ∀ q ∈ first :: List.replicate k p, q.IsWritten ∧ '.' ∉ q.number :=
    List.forall_mem_cons.mpr
      ⟨firstWritten, fun q member => List.eq_of_mem_replicate member ▸ written⟩
  have allWritten : ∀ q ∈ first :: List.replicate k p, q.IsWritten := fun q member =>
    (each q member).1
  have noPoint : ∀ q ∈ first :: List.replicate k p, '.' ∉ q.number := fun q member =>
    (each q member).2
  have tiles : Piece.Tiles (first :: List.replicate k p)
      (unsigned (String.ofList ((first :: List.replicate k p).flatMap Piece.text))) := by
    rw [unsigned_flatMap_text allWritten]
    exact Piece.tiles_iff.mpr ⟨List.cons_ne_nil _ _, allWritten, rfl⟩
  have fits : first.roundedNanos ≤ maxNanos := Nat.le_sub_one_of_lt below
  refine ⟨_, tiles, noPoint, ?_⟩
  rw [read_of_roundedSum tiles noPoint, Piece.roundedSum_of_lost lost, if_neg below.not_gt,
    Nat.min_eq_left fits]

/-- No exact sum is so large that every text with a larger one is refused: the number of pieces
counts as well. -/
theorem exists_read_beyond (bound : Nat) : ∃ raw pieces d, Piece.Tiles pieces (unsigned raw) ∧
    (∀ p ∈ pieces, '.' ∉ p.number) ∧ bound < (pieces.map Piece.nanos).sum ∧
    read raw = .ok d ∧ d.nanos < maxNanos := by
  -- the spacing of the format is 2048 below the limit, so 1023 is rounded away
  obtain ⟨raw, tiles, noPoint, accepted⟩ := exists_read_of_lost
    ⟨"18446744073709549568".toList, ['n', 's']⟩ ⟨"1023".toList, ['n', 's']⟩
    ⟨Piece.isWritten_of_digits (by decide) (by decide) (by decide), by decide⟩
    ⟨Piece.isWritten_of_digits (by decide) (by decide) (by decide), by decide⟩
    (by decide +kernel) (by decide +kernel) bound
  refine ⟨raw, _, _, tiles, noPoint, ?_, accepted, by decide +kernel⟩
  have nanos : Piece.nanos ⟨"1023".toList, ['n', 's']⟩ = 1023 := by decide
  have filled : 0 < Piece.nanos ⟨"18446744073709549568".toList, ['n', 's']⟩ := by decide
  rw [List.map_cons, List.sum_cons, List.map_replicate, List.sum_replicate_nat, nanos]
  omega

end LayeredConfig.Duration
