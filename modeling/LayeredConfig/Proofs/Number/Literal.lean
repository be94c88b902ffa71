import LayeredConfig.Number.Integer

/-!
# How whole numbers are written

A whole number is written as digits, with a sign in front or without one.  The
reader of signed numbers takes exactly these texts, as far as the number fits,
and it reads back what is printed.

Main statements: `readInt64_eq_some_iff`, `readInt64_toString`.
-/

namespace LayeredConfig.Number

/-! ## Digits -/

theorem isDigit_cases {c : Char} (digit : c.isDigit = true) : 48 ≤ c.toNat ∧ c.toNat ≤ 57 := by
  obtain ⟨low, high⟩ : '0'.val ≤ c.val ∧ c.val ≤ '9'.val := by
    simpa [Char.isDigit, ge_iff_le] using digit
  exact ⟨UInt32.le_iff_toNat_le.mp low, UInt32.le_iff_toNat_le.mp high⟩

theorem digitValue_of_isDigit {c : Char} (digit : c.isDigit = true) :
    digitValue c = some (c.toNat - '0'.toNat) ∧ c.toNat - '0'.toNat < 10 := by
  obtain ⟨low, high⟩ := isDigit_cases digit
  have inRange : '0' ≤ c ∧ c ≤ '9' :=
    ⟨UInt32.le_iff_toNat_le.mpr low, UInt32.le_iff_toNat_le.mpr high⟩
  refine ⟨?_, ?_⟩
  · rw [digitValue, if_pos inRange]
  · show c.toNat - 48 < 10
    omega

/-- Letters stand for ten and more. -/
theorem isDigit_of_digitValue {c : Char} {d : Nat} (found : digitValue c = some d)
    (small : d < 10) : c.isDigit = true := by
  unfold digitValue at found
  split at found
  next inRange =>
      rw [Char.isDigit, Bool.and_eq_true, decide_eq_true_eq, decide_eq_true_eq]
      exact inRange
  next =>
    split at found
    · cases found
      omega
    · split at found
      · cases found
        omega
      · contradiction

/-- Digits are read as the number that they write. -/
theorem digitsFrom_eq {ds : List Char} (each : ∀ c ∈ ds, c.isDigit = true) (high : Nat) :
    digitsFrom 10 high ds = some (Nat.ofDigitChars 10 ds high) := by
  induction ds generalizing high with
  | nil => rfl
  | cons c rest ih =>
      obtain ⟨here, later⟩ := List.forall_mem_cons.mp each
      obtain ⟨value, small⟩ := digitValue_of_isDigit here
      rw [digitsFrom, value]
      simp only [small, if_true]
      rw [ih later, Nat.ofDigitChars_cons, Nat.mul_comm]

theorem isDigit_of_digitsFrom {cs : List Char} {high n : Nat}
    (read : digitsFrom 10 high cs = some n) : ∀ c ∈ cs, c.isDigit = true := by
  induction cs generalizing high with
  | nil => exact nofun
  | cons c rest ih =>
      rw [digitsFrom] at read
      split at read
      next d found =>
        split at read
        next small => exact List.forall_mem_cons.mpr ⟨isDigit_of_digitValue found small, ih read⟩
        next => contradiction
      next => contradiction

theorem readDigits_eq_some_iff {cs : List Char} {n : Nat} :
    readDigits 10 cs = some n ↔
      (cs ≠ [] ∧ ∀ c ∈ cs, c.isDigit = true) ∧ Nat.ofDigitChars 10 cs 0 = n := by
  cases cs with
  | nil => simp [readDigits]
  | cons c rest =>
      show digitsFrom 10 0 (c :: rest) = some n ↔ _
      constructor
      · intro read
        have each := isDigit_of_digitsFrom read
        rw [digitsFrom_eq each] at read
        exact ⟨⟨List.cons_ne_nil _ _, each⟩, Option.some.inj read⟩
      · rintro ⟨⟨_, each⟩, rfl⟩
        exact digitsFrom_eq each 0

/-! ## Signed numbers -/

/-- A whole number as it may be written: digits, with a sign in front or without one. -/
inductive Literal : List Char → Int → Prop
  | bare {ds : List Char} : ds ≠ [] → (∀ c ∈ ds, c.isDigit = true) →
      Literal ds (Nat.ofDigitChars 10 ds 0)
  | plus {ds : List Char} : ds ≠ [] → (∀ c ∈ ds, c.isDigit = true) →
      Literal ('+' :: ds) (Nat.ofDigitChars 10 ds 0)
  | minus {ds : List Char} : ds ≠ [] → (∀ c ∈ ds, c.isDigit = true) →
      Literal ('-' :: ds) (-(Nat.ofDigitChars 10 ds 0 : Int))

theorem readSigned_eq_some_iff {cs : List Char} {i : Int} :
    readSigned 10 cs = some i ↔ Literal cs i := by
  constructor
  · intro read
    unfold readSigned at read
    split at read
    next =>
      obtain ⟨m, lifted, rfl⟩ := Option.map_eq_some_iff.mp read
      obtain ⟨n, digits, same⟩ := Option.bind_eq_some_iff.mp lifted
      obtain ⟨⟨filled, each⟩, rfl⟩ := readDigits_eq_some_iff.mp digits
      cases same
      exact .minus filled each
    next =>
      obtain ⟨n, digits, rfl⟩ := Option.map_eq_some_iff.mp read
      obtain ⟨⟨filled, each⟩, rfl⟩ := readDigits_eq_some_iff.mp digits
      exact .plus filled each
    next =>
      obtain ⟨n, digits, rfl⟩ := Option.map_eq_some_iff.mp read
      obtain ⟨⟨filled, each⟩, rfl⟩ := readDigits_eq_some_iff.mp digits
      exact .bare filled each
  · intro written
    cases written with
    | bare filled each =>
        have read := readDigits_eq_some_iff.mpr ⟨⟨filled, each⟩, rfl⟩
        unfold readSigned
        -- a sign is no digit
        split
        next => exact absurd (each '-' List.mem_cons_self) (by decide)
        next => exact absurd (each '+' List.mem_cons_self) (by decide)
        next => exact congrArg (Option.map Int.ofNat) read
    | plus filled each =>
        exact congrArg (Option.map Int.ofNat) (readDigits_eq_some_iff.mpr ⟨⟨filled, each⟩, rfl⟩)
    | minus filled each =>
        rw [readSigned, readDigits_eq_some_iff.mpr ⟨⟨filled, each⟩, rfl⟩]
        rfl

/-- A number in text that a signed 64-bit word can hold. -/
def IsInt64 (cs : List Char) (i : Int) : Prop :=
  Literal cs i ∧ -9223372036854775808 ≤ i ∧ i ≤ 9223372036854775807

theorem readInt64_eq_some_iff {cs : List Char} {i : Int} :
    readInt64 cs = some i ↔ IsInt64 cs i := by
  rw [readInt64, Option.filter_eq_some_iff, readSigned_eq_some_iff, IsInt64, fitsInt64,
    Bool.and_eq_true, decide_eq_true_eq, decide_eq_true_eq]

/-! ## Printed numbers -/

theorem toList_toString (n : Nat) : (toString (n : Int)).toList = Nat.toDigits 10 n :=
  String.toList_ofList

theorem isDigit_of_mem_toString {n : Nat} {c : Char} (member : c ∈ (toString (n : Int)).toList) :
    c.isDigit = true := by
  rw [toList_toString] at member
  exact Nat.isDigit_of_mem_toDigits (by decide) (by decide) member

theorem literal_toString (n : Nat) : Literal (toString (n : Int)).toList n := by
  have digits (c : Char) (member : c ∈ Nat.toDigits 10 n) : c.isDigit = true :=
    Nat.isDigit_of_mem_toDigits (by decide) (by decide) member
  have written := Literal.bare Nat.toDigits_ne_nil digits
  rwa [Nat.ofDigitChars_ten_toDigits, ← toList_toString] at written

/-- A number that is printed is read back. -/
theorem readInt64_toString {n : Nat} (fits : n ≤ 9223372036854775807) :
    readInt64 (toString (n : Int)).toList = some (n : Int) :=
  readInt64_eq_some_iff.mpr ⟨literal_toString n, by omega, by omega⟩

end LayeredConfig.Number
