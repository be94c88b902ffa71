import LayeredConfig.Proofs.Duration.Total

/-!
# Durations read back what they print

A printed duration is a run of whole hours and minutes with one more piece
behind them.  The whole ones are exact.  The last one is rounded, but stays so
close to what it stands for that the sum is rounded to the duration again: below
`2 ^ 52` nanoseconds the nearest whole number makes up for the error, and above
it every duration that was read lies on the grid to which the sum is rounded.

Main statements: `isReadable_of_readUnsigned`, `isWriting_write`, `read_write`.
-/

namespace LayeredConfig.Duration

open Text Number

/-! ## What can be read -/

/-- A whole number of nanoseconds with few significant bits, or the largest duration. -/
def IsReadable (d : Duration) : Prop :=
  d.nanos ≤ maxNanos ∧ (Magnitude.IsShort d.nanos ∨ d.nanos = maxNanos)

theorem Part.narrow_of_foldlM {parts : List Part} {start r : Magnitude}
    (narrow : start.mantissa < 2 ^ 53)
    (summed : parts.foldlM (fun sum part => do sum.add (← part.magnitude)) start = some r) :
    r.mantissa < 2 ^ 53 := by
  induction parts generalizing start with
  | nil =>
      obtain rfl := Option.some.inj summed
      exact narrow
  | cons p others ih =>
      rw [List.foldlM_cons] at summed
      obtain ⟨next, added, later⟩ := Option.bind_eq_some_iff.mp summed
      obtain ⟨m, _, sum⟩ := Option.bind_eq_some_iff.mp added
      exact ih (Magnitude.mantissa_lt_of_roundUnits Nat.one_pos sum) later

theorem isReadable_of_readUnsigned {cs : List Char} {d : Duration}
    (read : readUnsigned cs = some d) : IsReadable d := by
  unfold readUnsigned at read
  split at read
  · obtain rfl := Option.some.inj read
    exact ⟨Nat.zero_le _, Or.inl (Magnitude.isShort_of_lt (Nat.two_pow_pos 53))⟩
  · obtain ⟨parts, _, rest⟩ := Option.bind_eq_some_iff.mp read
    obtain ⟨total, summed, taken⟩ := Option.bind_eq_some_iff.mp rest
    obtain ⟨_, rfl⟩ := ofTotal_eq_some_iff.mp taken
    have narrow := Part.narrow_of_foldlM (Nat.two_pow_pos 53) summed
    refine ⟨Nat.min_le_right _ _, ?_⟩
    rcases Nat.le_total total.round maxNanos with fits | beyond
    · refine Or.inl ?_
      show Magnitude.IsShort (min total.round maxNanos)
      rw [Nat.min_eq_left fits]
      exact Magnitude.isShort_round narrow
    · exact Or.inr (Nat.min_eq_right beyond)

/-! ## What is written -/

/-- A piece that stands for a whole number of nanoseconds, at most a minute in all, with no more
than nine places. -/
structure Piece.Ends (p : Piece) (part : Part) (n : Nat) : Prop where
  spells : p.Spells part
  near : part.fraction.length ≤ 9
  exact : part.digits * part.unit.nanos = n * 10 ^ part.fraction.length
  below : part.digits < 2 ^ 10 * 10 ^ part.fraction.length
  small : part.unit.nanos < 2 ^ 30

theorem Numeral.isDigits {whole fraction text : List Char} (numeral : Numeral whole fraction text) :
    IsDigits (whole ++ fraction) := by
  intro c member
  rw [List.mem_append] at member
  cases numeral with
  | digits _ each => exact each c (by simpa using member)
  | pointed _ each eachBehind => exact member.elim (each c) (eachBehind c)
  | fraction _ each => exact each c (by simpa using member)

theorem isDigits_toDigits (n : Nat) : IsDigits (Nat.toDigits 10 n) :=
  fun _ member => Nat.isDigit_of_mem_toDigits (by decide) (by decide) member

theorem numeral_toDigits (n : Nat) : Numeral (Nat.toDigits 10 n) [] (Nat.toDigits 10 n) :=
  .digits Nat.toDigits_ne_nil (isDigits_toDigits n)

/-- A written fraction is the number in units of its last place. -/
theorem exists_numeral_writeFraction (whole : Nat) {fraction places : Nat} (filled : 0 < places)
    (small : fraction < 10 ^ places) : ∃ fs k, fs.length + k = places ∧
      Numeral (Nat.toDigits 10 whole) fs (writeFraction whole fraction places) ∧
      Nat.ofDigitChars 10 (Nat.toDigits 10 whole ++ fs) 0 * 10 ^ k =
        whole * 10 ^ places + fraction := by
  have narrow : (Nat.toDigits 10 fraction).length ≤ places :=
    (Nat.length_toDigits_le_iff (by decide) filled).mpr small
  let padded := List.replicate (places - (Nat.toDigits 10 fraction).length) '0' ++
    Nat.toDigits 10 fraction
  have length : padded.length = places := by
    rw [List.length_append, List.length_replicate, Nat.sub_add_cancel narrow]
  have each : IsDigits padded := by
    intro c member
    rcases List.mem_append.mp member with zero | digit
    · rw [List.eq_of_mem_replicate zero]
      rfl
    · exact isDigits_toDigits fraction c digit
  have number : Nat.ofDigitChars 10 padded whole = 10 ^ places * whole + fraction := by
    rw [Nat.ofDigitChars_eq_ofDigitChars_zero, length, Nat.ofDigitChars_append,
      Nat.ofDigitChars_replicate_zero, Nat.mul_zero, Nat.ofDigitChars_ten_toDigits]
  obtain ⟨k, split⟩ := exists_trailing '0' padded
  have shape : writeFraction whole fraction places = Nat.toDigits 10 whole ++
      (if (padded.reverse.dropWhile (· = '0')).reverse.isEmpty then []
        else '.' :: (padded.reverse.dropWhile (· = '0')).reverse) := rfl
  generalize (padded.reverse.dropWhile (· = '0')).reverse = kept at shape split
  refine ⟨kept, k, ?_, ?_, ?_⟩
  · rw [← length, ← split, List.length_append, List.length_replicate]
  · rw [shape]
    cases kept with
    | nil => simpa using numeral_toDigits whole
    | cons c rest =>
        have behind : IsDigits (c :: rest) := fun d member =>
          each d (split ▸ List.mem_append_left _ member)
        exact .pointed Nat.toDigits_ne_nil (isDigits_toDigits whole) behind
  · rw [← split, Nat.ofDigitChars_append, Nat.ofDigitChars_replicate_zero] at number
    rw [Nat.ofDigitChars_append, Nat.ofDigitChars_ten_toDigits, Nat.mul_comm, number, Nat.mul_comm]

theorem exists_ends_writeFraction (whole fraction places : Nat) {name : List Char}
    {unit : TimeUnit} (named : (name, unit) ∈ TimeUnit.names) (power : unit.nanos = 10 ^ places)
    (filled : 0 < places) (few : places ≤ 9) (below : whole < 1000)
    (small : fraction < 10 ^ places) :
    ∃ part, Piece.Ends ⟨writeFraction whole fraction places, name⟩ part
      (whole * 10 ^ places + fraction) := by
  obtain ⟨fs, k, length, numeral, number⟩ := exists_numeral_writeFraction whole filled small
  have split : 10 ^ k * 10 ^ fs.length = 10 ^ places := by
    rw [← Nat.pow_add, Nat.add_comm, length]
  refine ⟨⟨Nat.toDigits 10 whole, fs, unit⟩, ⟨numeral, named⟩, ?_, ?_, ?_, ?_⟩
  · show fs.length ≤ 9
    omega
  · show Nat.ofDigitChars 10 (Nat.toDigits 10 whole ++ fs) 0 * unit.nanos = _
    rw [power, ← number, ← split, Nat.mul_assoc]
  · show Nat.ofDigitChars 10 (Nat.toDigits 10 whole ++ fs) 0 < 2 ^ 10 * 10 ^ fs.length
    refine Nat.lt_of_mul_lt_mul_right (a := 10 ^ k) ?_
    rw [number, Nat.mul_assoc, Nat.mul_comm (10 ^ fs.length), split]
    have step : whole * 10 ^ places ≤ 999 * 10 ^ places :=
      Nat.mul_le_mul_right _ (Nat.le_of_lt_succ below)
    omega
  · show unit.nanos < 2 ^ 30
    rw [power]
    exact (Nat.pow_le_pow_right (Nat.succ_pos 9) few).trans_lt (by decide)

theorem ends_nano {n : Nat} (small : n < 1000) :
    Piece.Ends ⟨Nat.toDigits 10 n, ['n', 's']⟩ ⟨Nat.toDigits 10 n, [], .nano⟩ n := by
  have digits : Part.digits ⟨Nat.toDigits 10 n, [], .nano⟩ = n := by
    rw [Part.digits, List.append_nil, Nat.ofDigitChars_ten_toDigits]
  have named : (['n', 's'], .nano) ∈ TimeUnit.names := by decide
  refine ⟨⟨numeral_toDigits n, named⟩, Nat.zero_le 9, ?_, ?_, ?_⟩
  · rw [digits]
    rfl
  · rw [digits]
    show n < 2 ^ 10 * 1
    omega
  · show 1 < 2 ^ 30
    decide

/-- A text with what it stands for: pieces for whole hours and minutes, and one more piece. -/
def IsWriting (cs : List Char) (n : Nat) : Prop :=
  ∃ pieces leads p last rest, List.Forall₂ Piece.Spells pieces leads ∧ Piece.Ends p last rest ∧
    cs = (pieces ++ [p]).flatMap Piece.text ∧
    (∀ lead ∈ leads, lead.IsDecimal ∧ lead.fraction = [] ∧ 2 ^ 11 ∣ lead.unit.nanos) ∧
    (leads.map Part.wholeNanos).sum + rest = n

theorem Piece.Ends.isWriting {p : Piece} {last : Part} {n : Nat} (ends : p.Ends last n) :
    IsWriting p.text n :=
  ⟨[], [], p, last, n, .nil, ends, by simp, nofun, Nat.zero_add n⟩

/-- Whole hours or minutes may stand in front. -/
theorem IsWriting.cons {cs name : List Char} {n : Nat} {unit : TimeUnit} (writing : IsWriting cs n)
    (named : (name, unit) ∈ TimeUnit.names) (aligned : 2 ^ 11 ∣ unit.nanos) (count : Nat) :
    IsWriting (Nat.toDigits 10 count ++ name ++ cs) (count * unit.nanos + n) := by
  obtain ⟨pieces, leads, p, last, rest, each, ends, rfl, whole, sum⟩ := writing
  refine ⟨⟨Nat.toDigits 10 count, name⟩ :: pieces, ⟨Nat.toDigits 10 count, [], unit⟩ :: leads, p,
    last, rest, .cons ⟨numeral_toDigits count, named⟩ each, ends, rfl, ?_, ?_⟩
  · refine List.forall_mem_cons.mpr ⟨⟨?_, rfl, aligned⟩, whole⟩
    exact (numeral_toDigits count).isDigits
  · have value : Part.wholeNanos ⟨Nat.toDigits 10 count, [], unit⟩ = count * unit.nanos := by
      rw [Part.wholeNanos, Part.digits, List.append_nil, Nat.ofDigitChars_ten_toDigits]
    rw [List.map_cons, List.sum_cons, value, Nat.add_assoc, sum]

theorem isWriting_second (n : Nat) : IsWriting
    (writeFraction (n / 1000000000 % 60) (n % 1000000000) 9 ++ "s".toList)
    (n / 1000000000 % 60 * 1000000000 + n % 1000000000) := by
  obtain ⟨part, ends⟩ := exists_ends_writeFraction (n / 1000000000 % 60) (n % 1000000000) 9
    (by decide : (['s'], .second) ∈ TimeUnit.names) rfl (by omega) (by omega) (by omega) (by omega)
  exact ends.isWriting

/-- Whatever is printed stands for the duration. -/
theorem isWriting_write (d : Duration) : IsWriting (write d).toList d.nanos := by
  obtain ⟨n⟩ := d
  have second := isWriting_second n
  have minute := second.cons (by decide : (['m'], .minute) ∈ TimeUnit.names) (by decide)
    (n / 1000000000 % 3600 / 60)
  have hour := minute.cons (by decide : (['h'], .hour) ∈ TimeUnit.names) (by decide)
    (n / 1000000000 / 3600)
  rw [write, String.toList_ofList]
  simp only
  split_ifs with none nano micro milli hours minutes
  · subst none
    have ends : Piece.Ends ⟨['0'], ['s']⟩ ⟨['0'], [], .second⟩ 0 :=
      ⟨⟨numeral_toDigits 0, by decide⟩, by decide, by decide, by decide, by decide⟩
    exact ends.isWriting
  · exact (ends_nano nano).isWriting
  · obtain ⟨part, ends⟩ := exists_ends_writeFraction (n / 1000) (n % 1000) 3
      (by decide : (['µ', 's'], .micro) ∈ TimeUnit.names) rfl (by omega) (by omega) (by omega)
      (by omega)
    have sum : n / 1000 * 10 ^ 3 + n % 1000 = n := by omega
    have writing := ends.isWriting
    rw [sum] at writing
    exact writing
  · obtain ⟨part, ends⟩ := exists_ends_writeFraction (n / 1000000) (n % 1000000) 6
      (by decide : (['m', 's'], .milli) ∈ TimeUnit.names) rfl (by omega) (by omega) (by omega)
      (by omega)
    have sum : n / 1000000 * 10 ^ 6 + n % 1000000 = n := by omega
    have writing := ends.isWriting
    rw [sum] at writing
    exact writing
  · simp only [TimeUnit.nanos] at hour
    have sum : n / 1000000000 / 3600 * 3600000000000 + (n / 1000000000 % 3600 / 60 * 60000000000 +
        (n / 1000000000 % 60 * 1000000000 + n % 1000000000)) = n := by omega
    rw [sum] at hour
    simpa using hour
  · simp only [TimeUnit.nanos] at minute
    have sum : n / 1000000000 % 3600 / 60 * 60000000000 +
        (n / 1000000000 % 60 * 1000000000 + n % 1000000000) = n := by omega
    rw [sum] at minute
    simpa using minute
  · have sum : n / 1000000000 % 60 * 1000000000 + n % 1000000000 = n := by omega
    rwa [sum] at second

/-! ## What is read back -/

/-- The last piece is rounded twice, and both errors are tiny. -/
theorem Piece.Ends.exists_magnitude {p : Piece} {last : Part} {n : Nat} (ends : p.Ends last n) :
    ∃ r, last.magnitude = some r ∧ |r.value - n| ≤ 1 / 8 := by
  have scale : (0 : ℚ) < 10 ^ last.fraction.length := by positivity
  have small : (last.digits / 10 ^ last.fraction.length : ℚ) < 2 ^ 10 := by
    rw [div_lt_iff₀ scale]
    exact_mod_cast ends.below
  have few : last.digits < 10 ^ 100 :=
    calc last.digits < 2 ^ 10 * 10 ^ last.fraction.length := ends.below
      _ ≤ 2 ^ 10 * 10 ^ 9 :=
          Nat.mul_le_mul_left _ (Nat.pow_le_pow_right (Nat.succ_pos 9) ends.near)
      _ ≤ 10 ^ 100 := by norm_num
  have near : last.fraction.length ≤ 100 := ends.near.trans (by decide)
  obtain ⟨number, r, rounds, read, rounded⟩ :=
    Part.exists_magnitude ends.spells.1.isDigits few near small (by decide)
  have exact : (last.digits / 10 ^ last.fraction.length : ℚ) * last.unit.nanos = n := by
    rw [div_mul_eq_mul_div, div_eq_iff scale.ne']
    exact_mod_cast ends.exact
  have unitSmall : (last.unit.nanos : ℚ) < 2 ^ 30 := by exact_mod_cast ends.small
  have unitPositive : (0 : ℚ) < last.unit.nanos := Nat.cast_pos.mpr (Part.nanos_pos _)
  have first : |number.value - last.digits / 10 ^ last.fraction.length| ≤ 2 ^ 10 / 2 ^ 54 :=
    rounds.error_le small
  have middle : |number.value * last.unit.nanos - n| ≤ 1 / 2 ^ 14 := by
    rw [← exact, ← sub_mul, abs_mul, abs_of_pos unitPositive]
    calc _ ≤ 2 ^ 10 / 2 ^ 54 * 2 ^ 30 :=
          mul_le_mul first unitSmall.le unitPositive.le (by positivity)
      _ = 1 / 2 ^ 14 := by norm_num
  have whole : (n : ℚ) < 2 ^ 40 := by
    rw [← exact]
    calc _ < (2 : ℚ) ^ 10 * 2 ^ 30 := mul_lt_mul small unitSmall.le unitPositive (by positivity)
      _ = 2 ^ 40 := by norm_num
  obtain ⟨low, high⟩ := abs_le.mp middle
  have second : |r.value - number.value * last.unit.nanos| ≤ 2 ^ 41 / 2 ^ 54 := by
    refine rounded.error_le ?_
    linarith
  obtain ⟨low', high'⟩ := abs_le.mp second
  refine ⟨r, read, abs_le.mpr ⟨?_, ?_⟩⟩ <;> linarith

/-- A sum that is close to a duration that can be read, is rounded to it. -/
theorem ofTotal_of_rounds {v : ℚ} {r : Magnitude} {n : Nat} (readable : IsReadable ⟨n⟩)
    (rounds : Magnitude.Rounds v r) (near : |v - n| ≤ 1 / 8) : ofTotal r = some ⟨n⟩ := by
  obtain ⟨fits, short | largest⟩ := readable
  · refine ofTotal_of_near ?_ fits
    rcases Nat.lt_or_ge n (2 ^ 52) with small | large
    · have bound : ((n + 1 : Nat) : ℚ) ≤ (2 ^ 52 : Nat) :=
        Nat.cast_le.mpr (Nat.succ_le_of_lt small)
      push_cast at bound
      obtain ⟨low, high⟩ := abs_le.mp near
      obtain ⟨errorLow, errorHigh⟩ := abs_le.mp (rounds.error_le (e := 52) (by linarith))
      rw [abs_lt]
      constructor <;> linarith
    · have same : r.value = n := by
        refine rounds.value_eq_of_near (i := 0) short large ?_
        rw [abs_sub_comm]
        exact near.trans_lt (by norm_num)
      rw [same, sub_self, abs_zero]
      norm_num
  · -- the largest duration is no number of the format, the sum is the power of two above it
    have next : (n : ℚ) + 1 = (2 ^ 64 : Nat) := by
      have last : n = 2 ^ 64 - 1 := largest
      have succ : n + 1 = 2 ^ 64 := by
        rw [last, Nat.sub_add_cancel (Nat.two_pow_pos 64)]
      rw [← succ, Nat.cast_succ]
    obtain ⟨low, high⟩ := abs_le.mp near
    have same : r.value = (2 ^ 64 : Nat) := by
      refine rounds.value_eq_of_near (i := 12) (Magnitude.isShort_two_pow 64) (Nat.le_refl _) ?_
      rw [abs_lt, ← next]
      constructor <;> linarith
    have rounded : r.round = 2 ^ 64 := by
      refine Magnitude.round_eq_of_near ?_
      rw [same, sub_self, abs_zero]
      norm_num
    refine ofTotal_eq_some_iff.mpr ⟨?_, ?_⟩
    · rw [same]
      exact_mod_cast Nat.le_refl (2 ^ 64)
    · have beyond : maxNanos ≤ 2 ^ 64 := Nat.sub_le _ _
      rw [rounded, Nat.min_eq_right beyond]
      exact congrArg Duration.mk largest

/-- Text that stands for a duration that can be read, is read as that duration. -/
theorem IsWriting.readUnsigned {cs : List Char} {n : Nat} (writing : IsWriting cs n)
    (readable : IsReadable ⟨n⟩) : readUnsigned cs = some ⟨n⟩ := by
  obtain ⟨pieces, leads, p, last, rest, each, ends, rfl, whole, sum⟩ := writing
  have below : n < 2 ^ 64 := Nat.lt_of_le_sub_one (Nat.two_pow_pos 64) readable.1
  have leadsBelow : (leads.map Part.wholeNanos).sum < 2 ^ (53 + 11) := by omega
  obtain ⟨s, summed, exact⟩ := Part.exists_total (by decide) whole leadsBelow
  obtain ⟨m, read, close⟩ := ends.exists_magnitude
  have near : |s.value + m.value - n| ≤ 1 / 8 := by
    have split : s.value + m.value - n = m.value - rest := by
      rw [exact, ← sum]
      push_cast
      ring
    rwa [split]
  have inRange : s.value + m.value < 2 ^ 65 := by
    have cast : (n : ℚ) < (2 ^ 64 : Nat) := Nat.cast_lt.mpr below
    have high := (abs_le.mp near).2
    push_cast at cast
    linarith
  obtain ⟨r, added, rounds⟩ := Magnitude.exists_add inRange (by decide)
  have total : Part.total (leads ++ [last]) = some r := by
    rw [Part.total, List.foldlM_append, ← Part.total, summed]
    simp [read, added]
  rw [readUnsigned_of_spells (by simp) (List.rel_append each (.cons ends.spells .nil)), total,
    Option.bind_some]
  exact ofTotal_of_rounds readable rounds near

/-! ## Unsigned text -/

theorem isBlank_of_mem_text {p : Piece} (written : p.IsWritten) {c : Char} (member : c ∈ p.text) :
    isBlank c = false := by
  obtain ⟨number, unit⟩ := p
  obtain ⟨⟨whole, fraction, numeral⟩, named⟩ := written
  have digit : ∀ d : Char, d.isDigit = true → isBlank d = false := by
    intro d digit
    obtain ⟨low, high⟩ := isDigit_cases digit
    exact isBlank_eq_false (by omega) (by omega)
  have letters : ∀ unit ∈ TimeUnit.names.map Prod.fst, unit.all (!isBlank ·) = true := by decide
  have point : isBlank '.' = false := by decide
  rcases List.mem_append.mp member with inNumber | inUnit
  · cases numeral with
    | digits _ each => exact digit c (each c inNumber)
    | pointed _ each eachBehind =>
        rcases List.mem_append.mp inNumber with front | back
        · exact digit c (each c front)
        · rcases List.mem_cons.mp back with rfl | behind
          · exact point
          · exact digit c (eachBehind c behind)
    | fraction _ each =>
        rcases List.mem_cons.mp inNumber with rfl | behind
        · exact point
        · exact digit c (each c behind)
  · simpa using List.all_eq_true.mp (letters _ named) c inUnit

/-- Text made of pieces has no blank and no sign. -/
theorem unsigned_flatMap_text {pieces : List Piece} (written : ∀ p ∈ pieces, p.IsWritten) :
    unsigned (String.ofList (pieces.flatMap Piece.text)) = pieces.flatMap Piece.text := by
  have filled : ∀ c ∈ pieces.flatMap Piece.text, isBlank c = false := by
    intro c member
    obtain ⟨p, inPieces, inText⟩ := List.mem_flatMap.mp member
    exact isBlank_of_mem_text (written p inPieces) inText
  rw [unsigned, String.toList_ofList, trim_of_filled filled]
  have opens := Piece.opens_flatMap_text written
  cases shape : pieces.flatMap Piece.text with
  | nil => rfl
  | cons c rest =>
      rw [shape] at opens
      have noPlus : c ≠ '+' := by
        rintro rfl
        exact absurd (opens '+' rfl) (by decide)
      unfold dropPlus
      split
      next same => exact absurd (List.cons.inj same).1 noPlus
      next => rfl

theorem IsWriting.unsigned {text : String} {n : Nat} (writing : IsWriting text.toList n) :
    unsigned text = text.toList := by
  obtain ⟨pieces, leads, p, last, rest, each, ends, shape, _⟩ := writing
  have written : ∀ q ∈ pieces ++ [p], q.IsWritten :=
    List.forall_mem_append.mpr
      ⟨Piece.isWritten_of_forall₂ each, List.forall_mem_singleton.mpr ends.spells.isWritten⟩
  have joined := unsigned_flatMap_text written
  rwa [← shape, String.ofList_toList] at joined

/-- A duration that was read is printed as text that is read as the same duration. -/
theorem read_write {raw : String} {d : Duration} (accepted : read raw = .ok d) :
    read (write d) = .ok d := by
  have readable := isReadable_of_readUnsigned (read_eq_ok_iff_unsigned.mp accepted)
  have writing := isWriting_write d
  rw [read_eq_ok_iff_unsigned, writing.unsigned]
  exact writing.readUnsigned readable

/-- The largest duration is no number of the format and yet reads back. -/
theorem read_write_largest : read "18446744073709551615ns" = .ok ⟨maxNanos⟩ ∧
    read (write ⟨maxNanos⟩) = .ok ⟨maxNanos⟩ := by
  have accepted : read "18446744073709551615ns" = .ok ⟨maxNanos⟩ := by decide +kernel
  exact ⟨accepted, read_write accepted⟩

end LayeredConfig.Duration
