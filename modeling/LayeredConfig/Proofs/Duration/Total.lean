import LayeredConfig.Proofs.Duration.Grammar
import LayeredConfig.Proofs.Number.Literal
import LayeredConfig.Proofs.Number.Rounding

/-!
# What a duration adds up to

The parts of a duration are rounded and their sum is rounded after every part.
Whole numbers of units stay exact as long as they have few significant bits, so
a text without a decimal point stands for its exact sum below `2 ^ 53`
nanoseconds.

Main statements: `Part.exists_magnitude`, `Part.exists_total`, `grammar_of_read`.
-/

namespace LayeredConfig.Duration

open Text Number

/-! ## Parts -/

namespace Part

variable {p : Part} {e : Nat}

def digits (p : Part) : Nat := Nat.ofDigitChars 10 (p.whole ++ p.fraction) 0

/-- The part holds digits only. -/
def IsDecimal (p : Part) : Prop := IsDigits (p.whole ++ p.fraction)

theorem nanos_pos (u : TimeUnit) : 0 < u.nanos := by cases u <;> decide

theorem nanos_lt (u : TimeUnit) : u.nanos < 2 ^ 42 := by cases u <;> decide

/-- A unit is a number of the format. -/
theorem exists_unit (u : TimeUnit) :
    ∃ unit, Magnitude.ofFraction u.nanos 1 = some unit ∧ unit.value = u.nanos := by
  have bound : (u.nanos : ℚ) < 2 ^ 42 := by exact_mod_cast nanos_lt u
  have whole : (u.nanos / (1 : Nat) : ℚ) = u.nanos := by rw [Nat.cast_one, div_one]
  obtain ⟨unit, read, rounds⟩ := Magnitude.exists_ofFraction Nat.one_pos (whole ▸ bound) (by decide)
  have short : Magnitude.IsShort u.nanos :=
    Magnitude.isShort_of_lt ((nanos_lt u).trans (by decide))
  exact ⟨unit, read, (whole ▸ rounds).value_eq short⟩

/-- The number of a part is rounded, then its product with the unit. -/
theorem exists_magnitude (decimal : p.IsDecimal) (few : p.digits < 10 ^ 100)
    (near : p.fraction.length ≤ 100)
    (small : (p.digits / 10 ^ p.fraction.length : ℚ) < 2 ^ e) (inRange : e ≤ 900) :
    ∃ number r, Magnitude.Rounds (p.digits / 10 ^ p.fraction.length) number ∧
      p.magnitude = some r ∧ Magnitude.Rounds (number.value * p.unit.nanos) r := by
  obtain ⟨number, read, rounds⟩ := Decimal.exists_toMagnitude few near small (by omega)
  have nanosBound : (p.unit.nanos : ℚ) < 2 ^ 42 := by exact_mod_cast nanos_lt p.unit
  obtain ⟨unit, unitRead, unitValue⟩ := exists_unit p.unit
  have numberBound : number.value < 2 ^ (e + 1) := by
    have error := (abs_le.mp (rounds.error_le small)).2
    have step : (2 : ℚ) ^ e / 2 ^ 54 ≤ 2 ^ e := div_le_self (by positivity) (by norm_num)
    rw [pow_succ]
    linarith
  have product : number.value * unit.value < 2 ^ (e + 1 + 42) := by
    rw [unitValue, pow_add]
    have positive : (0 : ℚ) < p.unit.nanos := Nat.cast_pos.mpr (nanos_pos p.unit)
    exact mul_lt_mul numberBound nanosBound.le positive (by positivity)
  obtain ⟨r, multiplied, rounded⟩ := Magnitude.exists_mul product (by omega)
  rw [unitValue] at rounded
  refine ⟨number, r, rounds, ?_, rounded⟩
  rw [magnitude, digitsFrom_eq decimal]
  simp only [Option.bind_eq_bind, Option.bind_some]
  rw [show Nat.ofDigitChars 10 (p.whole ++ p.fraction) 0 = p.digits from rfl, read]
  simp only [Option.bind_some, unitRead, multiplied]

/-- Nanoseconds of a part without a fraction. -/
def wholeNanos (p : Part) : Nat := p.digits * p.unit.nanos

/-- A whole number of units is exact, if it has few significant bits. -/
theorem exists_magnitude_whole (decimal : p.IsDecimal) (whole : p.fraction = [])
    (aligned : 2 ^ e ∣ p.unit.nanos) (small : p.wholeNanos < 2 ^ (53 + e)) :
    ∃ r, p.magnitude = some r ∧ r.value = p.wholeNanos := by
  have length : p.fraction.length = 0 := List.length_eq_zero_iff.mpr whole
  have plain : (p.digits / 10 ^ p.fraction.length : ℚ) = p.digits := by
    rw [length, pow_zero, div_one]
  have few : p.digits < 2 ^ 53 := by
    have step := Nat.le_of_dvd (nanos_pos p.unit) aligned
    rw [wholeNanos, Nat.pow_add] at small
    exact Nat.lt_of_mul_lt_mul_right ((Nat.mul_le_mul_left p.digits step).trans_lt small)
  have bound : (p.digits : ℚ) < 2 ^ 53 := by exact_mod_cast few
  obtain ⟨number, r, rounds, read, rounded⟩ := exists_magnitude decimal
    (few.trans (by norm_num)) (by omega) (plain ▸ bound) (by decide)
  rw [plain] at rounds
  rw [rounds.value_eq (Magnitude.isShort_of_lt few), ← Nat.cast_mul] at rounded
  have short := Magnitude.isShort_of_dvd (Nat.dvd_mul_left_of_dvd aligned p.digits) small
  exact ⟨r, read, rounded.value_eq short⟩

/-- The sum of parts without fractions is exact, as long as it has few significant bits. -/
theorem exists_sum {parts : List Part} (inRange : e ≤ 900)
    (each : ∀ p ∈ parts, p.IsDecimal ∧ p.fraction = [] ∧ 2 ^ e ∣ p.unit.nanos)
    {start : Magnitude} {n : Nat} (begun : start.value = n) (aligned : 2 ^ e ∣ n)
    (small : n + (parts.map wholeNanos).sum < 2 ^ (53 + e)) :
    ∃ r, parts.foldlM (fun sum part => do sum.add (← part.magnitude)) start = some r ∧
      r.value = (n + (parts.map wholeNanos).sum : Nat) := by
  induction parts generalizing start n with
  | nil => exact ⟨start, rfl, begun⟩
  | cons p others ih =>
      obtain ⟨⟨decimal, whole, alignedUnit⟩, later⟩ := List.forall_mem_cons.mp each
      rw [List.map_cons, List.sum_cons, ← Nat.add_assoc] at small ⊢
      have below : n + p.wholeNanos < 2 ^ (53 + e) := (Nat.le_add_right _ _).trans_lt small
      have aligned' : 2 ^ e ∣ n + p.wholeNanos :=
        Nat.dvd_add aligned (Nat.dvd_mul_left_of_dvd alignedUnit p.digits)
      obtain ⟨m, read, value⟩ :=
        exists_magnitude_whole decimal whole alignedUnit (by omega : p.wholeNanos < _)
      have exact : start.value + m.value = (n + p.wholeNanos : Nat) := by
        rw [begun, value, Nat.cast_add]
      obtain ⟨next, added, rounds⟩ := Magnitude.exists_add (a := start) (b := m) (e := 53 + e)
        (by rw [exact]; exact_mod_cast below) (by omega)
      have valueNext := (exact ▸ rounds).value_eq (Magnitude.isShort_of_dvd aligned' below)
      obtain ⟨r, summed, total⟩ := ih later valueNext aligned' small
      refine ⟨r, ?_, total⟩
      rw [List.foldlM_cons, read]
      simp only [Option.bind_eq_bind, Option.bind_some, added]
      exact summed

theorem exists_total {parts : List Part} (inRange : e ≤ 900)
    (each : ∀ p ∈ parts, p.IsDecimal ∧ p.fraction = [] ∧ 2 ^ e ∣ p.unit.nanos)
    (small : (parts.map wholeNanos).sum < 2 ^ (53 + e)) :
    ∃ r, total parts = some r ∧ r.value = ((parts.map wholeNanos).sum : Nat) := by
  have begun : Magnitude.zero.value = (0 : Nat) := by rw [Magnitude.value_zero, Nat.cast_zero]
  obtain ⟨r, summed, value⟩ := exists_sum inRange each begun (Nat.dvd_zero _)
    (by rwa [Nat.zero_add])
  rw [Nat.zero_add] at value
  exact ⟨r, summed, value⟩

end Part

/-! ## Totals -/

theorem ofTotal_eq_some_iff {m : Magnitude} {d : Duration} :
    ofTotal m = some d ↔ m.value ≤ 2 ^ 64 ∧ d = ⟨min m.round maxNanos⟩ := by
  have positive : (0 : ℚ) < Magnitude.perOne := Nat.cast_pos.mpr Magnitude.perOne_pos
  have inRange : m.value ≤ 2 ^ 64 ↔ ¬2 ^ 64 * Magnitude.perOne < m.units := by
    rw [Magnitude.value, div_le_iff₀ positive, Nat.not_lt]
    exact_mod_cast Iff.rfl
  unfold ofTotal
  rw [Magnitude.depth_eq, Nat.pow_eq, Nat.pow_eq, ← Magnitude.perOne, inRange]
  split <;> simp_all [eq_comm]

/-- A sum near a whole number of nanoseconds is taken for that number. -/
theorem ofTotal_of_near {m : Magnitude} {n : Nat} (near : |m.value - n| < 1 / 2)
    (small : n ≤ maxNanos) : ofTotal m = some ⟨n⟩ := by
  refine ofTotal_eq_some_iff.mpr ⟨?_, ?_⟩
  · have bound : ((n + 1 : Nat) : ℚ) ≤ (2 ^ 64 : Nat) :=
      Nat.cast_le.mpr (Nat.add_le_of_le_sub (Nat.two_pow_pos 64) small)
    have high := (abs_lt.mp near).2
    push_cast at bound
    linarith
  · rw [Magnitude.round_eq_of_near near, Nat.min_eq_left small]

/-! ## The text behind the sign -/

def dropPlus : List Char → List Char
  | '+' :: rest => rest
  | cs => cs

/-- The trimmed text without one plus sign in front. -/
def unsigned (raw : String) : List Char := dropPlus (trim raw.toList)

theorem readTrimmed_eq (cs : List Char) : readTrimmed cs = readUnsigned (dropPlus cs) := by
  unfold readTrimmed dropPlus
  split
  next => simp [readUnsigned, Part.readAll, Part.read]
  next rest =>
    have nothing : Part.read ('-' :: rest) = none := rfl
    simp [readUnsigned, Part.readAll, nothing]
  next => rfl
  next noPlus =>
    split
    next rest _ _ => exact absurd rfl (noPlus rest)
    next => rfl

theorem read_eq_ok_iff_unsigned {raw : String} {d : Duration} :
    read raw = .ok d ↔ readUnsigned (unsigned raw) = some d := by
  rw [read_eq_ok_iff, readTrimmed_eq, unsigned]

/-- Written pieces are summed up, whatever text they make. -/
theorem readUnsigned_of_spells {pieces : List Piece} {parts : List Part} (filled : pieces ≠ [])
    (each : List.Forall₂ Piece.Spells pieces parts) :
    readUnsigned (pieces.flatMap Piece.text) = (Part.total parts).bind ofTotal := by
  have all : Part.readAll (pieces.flatMap Piece.text) = some parts :=
    Part.readAll_eq_some_iff.mpr ⟨pieces, filled, each, rfl⟩
  have notZero : pieces.flatMap Piece.text ≠ ['0'] := by
    intro zero
    rw [zero] at all
    have nothing : Part.read ['0'] = none := rfl
    simp [Part.readAll, nothing] at all
  rw [readUnsigned, if_neg notZero, all]
  rfl

/-- Nanoseconds of a piece whose number has no point. -/
def Piece.nanos (p : Piece) : Nat :=
  Nat.ofDigitChars 10 p.number 0 * ((TimeUnit.names.lookup p.unit).map TimeUnit.nanos).getD 0

theorem Piece.Spells.lookup {p : Piece} {part : Part} (spells : p.Spells part) :
    TimeUnit.names.lookup p.unit = some part.unit := by
  have each : ∀ entry ∈ TimeUnit.names, TimeUnit.names.lookup entry.1 = some entry.2 := by decide
  exact each _ spells.2

/-- A number without a point is a run of digits. -/
theorem Piece.Spells.digits {p : Piece} {part : Part} (spells : p.Spells part)
    (noPoint : '.' ∉ p.number) :
    part.IsDecimal ∧ part.fraction = [] ∧ part.digits = Nat.ofDigitChars 10 p.number 0 := by
  obtain ⟨whole, fraction, unit⟩ := part
  obtain ⟨number, name⟩ := p
  obtain ⟨numeral, _⟩ : Numeral whole fraction number ∧ (name, unit) ∈ TimeUnit.names := spells
  cases numeral with
  | digits _ each => exact ⟨by simpa [Part.IsDecimal] using each, rfl, by simp [Part.digits]⟩
  | pointed => simp at noPoint
  | fraction => simp at noPoint

theorem Piece.Spells.whole {p : Piece} {part : Part} (spells : p.Spells part)
    (noPoint : '.' ∉ p.number) :
    part.IsDecimal ∧ part.fraction = [] ∧ part.wholeNanos = p.nanos := by
  obtain ⟨decimal, whole, digits⟩ := spells.digits noPoint
  refine ⟨decimal, whole, ?_⟩
  rw [Part.wholeNanos, digits, Piece.nanos, spells.lookup]
  rfl

theorem exists_parts {pieces : List Piece} (written : ∀ p ∈ pieces, p.IsWritten) :
    ∃ parts, List.Forall₂ Piece.Spells pieces parts := by
  induction pieces with
  | nil => exact ⟨[], .nil⟩
  | cons p others ih =>
      obtain ⟨here, later⟩ := List.forall_mem_cons.mp written
      obtain ⟨part, spells⟩ := here.exists_spells
      obtain ⟨parts, each⟩ := ih later
      exact ⟨part :: parts, .cons spells each⟩

theorem wholeNanos_of_spells {pieces : List Piece} {parts : List Part}
    (each : List.Forall₂ Piece.Spells pieces parts) (noPoint : ∀ p ∈ pieces, '.' ∉ p.number) :
    (∀ p ∈ parts, p.IsDecimal ∧ p.fraction = []) ∧
      parts.map Part.wholeNanos = pieces.map Piece.nanos := by
  induction each with
  | nil => exact ⟨nofun, rfl⟩
  | cons spells _ ih =>
      obtain ⟨here, later⟩ := List.forall_mem_cons.mp noPoint
      obtain ⟨decimal, whole, same⟩ := spells.whole here
      obtain ⟨others, sums⟩ := ih later
      exact ⟨List.forall_mem_cons.mpr ⟨⟨decimal, whole⟩, others⟩,
        by rw [List.map_cons, List.map_cons, same, sums]⟩

/-- Pieces without a point stand for their exact sum. -/
theorem readUnsigned_of_noPoint {pieces : List Piece} (filled : pieces ≠ [])
    (each : ∀ p ∈ pieces, p.IsWritten ∧ '.' ∉ p.number)
    (small : (pieces.map Piece.nanos).sum < 2 ^ 53) :
    readUnsigned (pieces.flatMap Piece.text) = some ⟨(pieces.map Piece.nanos).sum⟩ := by
  obtain ⟨parts, spells⟩ := exists_parts fun p member => (each p member).1
  obtain ⟨decimal, sums⟩ := wholeNanos_of_spells spells fun p member => (each p member).2
  have aligned : ∀ p ∈ parts, p.IsDecimal ∧ p.fraction = [] ∧ 2 ^ 0 ∣ p.unit.nanos :=
    fun p member => ⟨(decimal p member).1, (decimal p member).2, Nat.one_dvd _⟩
  obtain ⟨r, total, value⟩ := Part.exists_total (Nat.zero_le _) aligned (by rwa [sums])
  rw [sums] at value
  have below : 2 ^ 53 ≤ maxNanos := by decide
  rw [readUnsigned_of_spells filled spells, total, Option.bind_some]
  refine ofTotal_of_near ?_ (small.le.trans below)
  rw [value, sub_self, abs_zero]
  norm_num

/-! ## The grammar -/

theorem read_of_trim_nil {raw : String} (blank : trim raw.toList = []) :
    read raw = .error .empty := by
  rw [read, blank]

theorem read_of_trim_minus {raw : String} {rest : List Char}
    (minus : trim raw.toList = '-' :: rest) :
    read raw = .error (.negative (String.ofList ('-' :: rest))) := by
  rw [read, minus]
  rfl

/-- Text that is neither blank nor negative is read or invalid. -/
theorem read_of_trim_filled {raw : String} {c : Char} {rest : List Char}
    (shape : trim raw.toList = c :: rest) (noMinus : c ≠ '-') :
    (∃ d, read raw = .ok d) ∨ read raw = .error (.invalid raw) := by
  unfold read
  rw [shape]
  split
  next => contradiction
  next same => exact absurd (List.cons.inj same).1 noMinus
  next =>
    simp only
    split
    next d _ => exact Or.inl ⟨d, rfl⟩
    next => exact Or.inr rfl

/-- Blank text is empty, text with a minus is negative, and whatever else is refused is invalid. -/
theorem read_cases (raw : String) :
    (trim raw.toList = [] ∧ read raw = .error .empty) ∨
      (∃ rest, trim raw.toList = '-' :: rest ∧
        read raw = .error (.negative (String.ofList ('-' :: rest)))) ∨
      (∃ c rest, trim raw.toList = c :: rest ∧ c ≠ '-' ∧
        ((∃ d, read raw = .ok d) ∨ read raw = .error (.invalid raw))) := by
  cases shape : trim raw.toList with
  | nil => exact Or.inl ⟨rfl, read_of_trim_nil shape⟩
  | cons c rest =>
      by_cases minus : c = '-'
      · subst minus
        exact Or.inr (Or.inl ⟨rest, rfl, read_of_trim_minus shape⟩)
      · exact Or.inr (Or.inr ⟨c, rest, rfl, minus, read_of_trim_filled shape minus⟩)

theorem read_eq_empty_iff {raw : String} : read raw = .error .empty ↔ trim raw.toList = [] := by
  obtain ⟨shape, result⟩ | ⟨rest, shape, result⟩ | ⟨c, rest, shape, _, ⟨d, result⟩ | result⟩ :=
    read_cases raw <;> simp [shape, result]

theorem read_eq_negative_iff {raw text : String} : read raw = .error (.negative text) ↔
    ∃ rest, trim raw.toList = '-' :: rest ∧ text = String.ofList ('-' :: rest) := by
  constructor
  · intro refused
    obtain ⟨shape, result⟩ | ⟨rest, shape, result⟩ | ⟨c, rest, shape, _, ⟨d, result⟩ | result⟩ :=
      read_cases raw <;> rw [result] at refused
    · nomatch Except.error.inj refused
    · obtain rfl := Fault.negative.inj (Except.error.inj refused)
      exact ⟨rest, shape, rfl⟩
    · contradiction
    · nomatch Except.error.inj refused
  · rintro ⟨rest, shape, rfl⟩
    exact read_of_trim_minus shape

theorem fault_of_read {raw : String} {fault : Fault} (refused : read raw = .error fault) :
    fault = .empty ∨ (∃ text, fault = .negative text) ∨ fault = .invalid raw := by
  obtain ⟨_, result⟩ | ⟨rest, _, result⟩ | ⟨c, rest, _, _, ⟨d, result⟩ | result⟩ :=
    read_cases raw <;> rw [result] at refused
  · exact Or.inl (Except.error.inj refused).symm
  · exact Or.inr (Or.inl ⟨_, (Except.error.inj refused).symm⟩)
  · contradiction
  · exact Or.inr (Or.inr (Except.error.inj refused).symm)

/-- What is accepted is a bare zero or was summed up over the only cut of the text into pieces. -/
theorem exists_pieces_of_readUnsigned {cs : List Char} {d : Duration}
    (read : readUnsigned cs = some d) : cs = ['0'] ∨ ∃ pieces parts,
      pieces ≠ [] ∧ (∀ p ∈ pieces, p.IsWritten) ∧ pieces.flatMap Piece.text = cs ∧
      Piece.found cs = pieces ∧ (∀ other, Piece.Tiles other cs ↔ other = pieces) ∧
      List.Forall₂ Piece.Spells pieces parts ∧ (Part.total parts).bind ofTotal = some d := by
  by_cases zero : cs = ['0']
  · exact Or.inl zero
  · have parsed := read
    rw [readUnsigned, if_neg zero] at parsed
    obtain ⟨parts, all, _⟩ := Option.bind_eq_some_iff.mp parsed
    obtain ⟨pieces, filled, each, rfl⟩ := Part.readAll_eq_some_iff.mp all
    have written := Piece.isWritten_of_forall₂ each
    have found := Piece.found_flatMap_text written
    refine Or.inr ⟨pieces, parts, filled, written, rfl, found, fun other => ?_, each, ?_⟩
    · constructor
      · exact fun tiles => tiles.eq_found.trans found
      · rintro rfl
        exact Piece.tiles_iff.mpr ⟨filled, written, rfl⟩
    · rw [← readUnsigned_of_spells filled each, read]

/-- The grammar of durations.  Behind the blanks and one plus sign, an accepted text is a bare zero
or a run of pieces.  The pieces that a search finds make up the whole text, no other cut of the text
exists, and the duration is the rounded sum of just these pieces.  Any such text without points is
accepted as its exact sum below `2 ^ 53` nanoseconds.  The three faults tell blank text, text with a
minus and all other text apart. -/
theorem grammar_of_read (raw : String) :
    (∀ d, read raw = .ok d → unsigned raw = ['0'] ∨ ∃ pieces parts,
      pieces ≠ [] ∧ (∀ p ∈ pieces, p.IsWritten) ∧ pieces.flatMap Piece.text = unsigned raw ∧
      Piece.found (unsigned raw) = pieces ∧
      (∀ other, Piece.Tiles other (unsigned raw) ↔ other = pieces) ∧
      List.Forall₂ Piece.Spells pieces parts ∧ (Part.total parts).bind ofTotal = some d) ∧
    (unsigned raw = ['0'] → read raw = .ok zero) ∧
    (∀ pieces, pieces ≠ [] → (∀ p ∈ pieces, p.IsWritten ∧ '.' ∉ p.number) →
      pieces.flatMap Piece.text = unsigned raw → (pieces.map Piece.nanos).sum < 2 ^ 53 →
      read raw = .ok ⟨(pieces.map Piece.nanos).sum⟩) ∧
    (read raw = .error .empty ↔ trim raw.toList = []) ∧
    (∀ text, read raw = .error (.negative text) ↔
      ∃ rest, trim raw.toList = '-' :: rest ∧ text = String.ofList ('-' :: rest)) ∧
    (∀ fault, read raw = .error fault →
      fault = .empty ∨ (∃ text, fault = .negative text) ∨ fault = .invalid raw) := by
  refine ⟨fun d accepted => ?_, fun zero => ?_, fun pieces filled each joined small => ?_, ?_,
    fun text => ?_, fun fault refused => ?_⟩
  · exact exists_pieces_of_readUnsigned (read_eq_ok_iff_unsigned.mp accepted)
  · rw [read_eq_ok_iff_unsigned, readUnsigned, if_pos zero]
  · rw [read_eq_ok_iff_unsigned, ← joined]
    exact readUnsigned_of_noPoint filled each small
  · exact read_eq_empty_iff
  · exact read_eq_negative_iff
  · exact fault_of_read refused

/-- An hour and a half behind a plus sign: the numbers have no point, so the sum is exact. -/
theorem grammar_of_hour_and_half :
    read " +1h30m" = .ok (ofMinutes 90) ∧
      Piece.found "1h30m".toList = [⟨['1'], ['h']⟩, ⟨['3', '0'], ['m']⟩] := by
  have hour : IsDigits ['1'] := by decide
  have half : IsDigits ['3', '0'] := by decide
  have written : ∀ p ∈ ([⟨['1'], ['h']⟩, ⟨['3', '0'], ['m']⟩] : List Piece),
      p.IsWritten ∧ '.' ∉ p.number := by
    refine List.forall_mem_cons.mpr ⟨⟨⟨⟨_, _, .digits (by decide) hour⟩, by decide⟩, by decide⟩, ?_⟩
    refine List.forall_mem_singleton.mpr ⟨⟨⟨_, _, .digits (by decide) half⟩, by decide⟩, by decide⟩
  have shape : unsigned " +1h30m" = "1h30m".toList := by decide
  have accepted := (grammar_of_read " +1h30m").2.2.1 _ (List.cons_ne_nil _ _) written shape.symm
    (by decide)
  refine ⟨accepted, ?_⟩
  obtain zero | ⟨pieces, parts, filled, each, joined, found, only, _⟩ :=
    (grammar_of_read " +1h30m").1 _ accepted
  · exact absurd zero (by decide)
  · rw [← shape, found]
    exact ((only _).mp (Piece.tiles_iff.mpr ⟨List.cons_ne_nil _ _,
      fun p member => (written p member).1, shape.symm⟩)).symm

end LayeredConfig.Duration
