import LayeredConfig.Net.Address
import LayeredConfig.Proofs.Text.Cut

/-!
# Blocks in text

A text names a block iff what stands in front of its first slash, or all of it,
is an address in particular and what stands behind the slash is a number of bits
that fits it.  Of any other text the reader names the first thing that is wrong.

Main statements: `Block.read_eq_iff`, `Block.bits_of_read`.
-/

namespace LayeredConfig.Net

open Text Number

/-- The part of a text in front of its first slash, and the one behind it. -/
inductive Slashed : List Char → List Char → Option (List Char) → Prop
  | whole {text : List Char} : '/' ∉ text → Slashed text text none
  | cut {front : List Char} (back : List Char) : '/' ∉ front →
      Slashed (front ++ '/' :: back) front (some back)

theorem exists_slashed (text : List Char) : ∃ front back, Slashed text front back := by
  cases cut : cutOnce '/' text with
  | none => exact ⟨text, none, .whole (cutOnce_eq_none_iff.mp cut)⟩
  | some parts =>
      obtain ⟨free, shape⟩ := cutOnce_eq_some_iff.mp cut
      exact ⟨parts.1, some parts.2, shape ▸ .cut parts.2 free⟩

namespace Block

/-- The text is an address that does not stand for every address. -/
structure Specific (text : List Char) (address : Address) : Prop where
  read : Address.read text = some address
  specified : address.isUnspecified = false

/-- What a text is taken for: a block, or what is wrong with it first. -/
inductive TakenFor (text : List Char) : Except Fault Block → Prop
  | malformed {front : List Char} {back : Option (List Char)} :
      Slashed text front back → Address.read front = none → TakenFor text (.error .malformed)
  | unspecified {front : List Char} {back : Option (List Char)} {address : Address} :
      Slashed text front back → Address.read front = some address →
        address.isUnspecified = true → TakenFor text (.error .unspecified)
  | address {front : List Char} {address : Address} :
      Slashed text front none → Specific front address → TakenFor text (.ok { address })
  | badLength {front digits : List Char} {address : Address} :
      Slashed text front (some digits) → Specific front address → readBits 8 digits = none →
        TakenFor text (.error (.badLength (String.ofList digits)))
  | everything {front digits : List Char} {address : Address} :
      Slashed text front (some digits) → Specific front address → readBits 8 digits = some 0 →
        TakenFor text (.error .everything)
  | tooLong {front digits : List Char} {address : Address} {bits : Nat} :
      Slashed text front (some digits) → Specific front address → readBits 8 digits = some bits →
        address.width < bits → TakenFor text (.error (.tooLong bits address.width))
  | block {front digits : List Char} {address : Address} {bits : Nat} :
      Slashed text front (some digits) → Specific front address → readBits 8 digits = some bits →
        0 < bits → bits ≤ address.width → TakenFor text (.ok { address, bits := some bits })

variable {raw : String} {text front : List Char} {back : Option (List Char)} {address : Address}

/-- Every text is taken for something. -/
theorem exists_takenFor (text : List Char) : ∃ result, TakenFor text result := by
  obtain ⟨front, back, slashed⟩ := exists_slashed text
  cases found : Address.read front with
  | none => exact ⟨_, .malformed slashed found⟩
  | some address =>
      cases unspecified : address.isUnspecified with
      | true => exact ⟨_, .unspecified slashed found unspecified⟩
      | false =>
          have specific : Specific front address := ⟨found, unspecified⟩
          cases back with
          | none => exact ⟨_, .address slashed specific⟩
          | some digits =>
              cases count : readBits 8 digits with
              | none => exact ⟨_, .badLength slashed specific count⟩
              | some bits =>
                  obtain rfl | positive := Nat.eq_zero_or_pos bits
                  · exact ⟨_, .everything slashed specific count⟩
                  · obtain long | fits := Nat.lt_or_ge address.width bits
                    · exact ⟨_, .tooLong slashed specific count long⟩
                    · exact ⟨_, .block slashed specific count positive fits⟩

theorem Specific.readSpecific (specific : Specific text address) :
    readSpecific text = .ok address := by
  rw [Block.readSpecific, specific.read]
  exact if_neg (Bool.eq_false_iff.mp specific.specified)

/-- The reader is a function of the two parts. -/
theorem read_of_slashed (slashed : Slashed (trim raw.toList) front back) :
    read raw = (do
      let address ← readSpecific front
      match back with
      | none => return { address }
      | some digits => return { address, bits := some (← readBitCount address digits) }) := by
  unfold read
  generalize trim raw.toList = text at slashed
  cases slashed with
  | whole free => simp only [cutOnce_eq_none_iff.mpr free]
  | cut digits free => simp only [cutOnce_eq_some_iff.mpr ⟨free, rfl⟩]

theorem read_of_takenFor {result : Except Fault Block}
    (taken : TakenFor (trim raw.toList) result) : read raw = result := by
  cases taken with
  | malformed slashed none =>
      rw [read_of_slashed slashed, readSpecific, none]
      rfl
  | unspecified slashed found unspecified =>
      rw [read_of_slashed slashed, readSpecific, found]
      simp only [unspecified]
      rfl
  | address slashed specific =>
      rw [read_of_slashed slashed, specific.readSpecific]
      rfl
  | badLength slashed specific count =>
      rw [read_of_slashed slashed, specific.readSpecific]
      simp only [bind, Except.bind, readBitCount, count]
  | everything slashed specific count =>
      rw [read_of_slashed slashed, specific.readSpecific]
      simp only [bind, Except.bind, readBitCount, count]
      rfl
  | tooLong slashed specific count long =>
      rw [read_of_slashed slashed, specific.readSpecific]
      simp only [bind, Except.bind, readBitCount, count, if_neg (Nat.ne_zero_of_lt long),
        if_pos long]
  | block slashed specific count positive fits =>
      rw [read_of_slashed slashed, specific.readSpecific]
      simp only [bind, Except.bind, readBitCount, count, if_neg (Nat.ne_of_gt positive),
        if_neg (Nat.not_lt.mpr fits)]
      rfl

theorem read_eq_iff {result : Except Fault Block} :
    read raw = result ↔ TakenFor (trim raw.toList) result := by
  refine ⟨?_, read_of_takenFor⟩
  rintro rfl
  obtain ⟨result, taken⟩ := exists_takenFor (trim raw.toList)
  rwa [read_of_takenFor taken]

/-- A block that may be listed is one address in particular, or has at least one bit that counts and
no more than its address. -/
theorem bits_of_read {b : Block} (read : Block.read raw = .ok b) :
    b.address.isUnspecified = false ∧ ∀ n, b.bits = some n → 1 ≤ n ∧ n ≤ b.address.width := by
  cases read_eq_iff.mp read with
  | address _ specific => exact ⟨specific.specified, nofun⟩
  | block _ specific _ positive fits =>
      refine ⟨specific.specified, fun n same => ?_⟩
      obtain rfl := Option.some.inj same
      exact ⟨positive, fits⟩

end Block

end LayeredConfig.Net
