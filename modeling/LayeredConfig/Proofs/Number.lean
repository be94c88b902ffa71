import LayeredConfig.Number.Integer

/-!
# Signed and unsigned readings of a number

A text that reads as a positive number with a sign reads as the same number
without one, and back as far as the number fits.

Main statements: `readBits_of_readInt64`, `readInt64_of_readBits`.
-/

namespace LayeredConfig.Number

theorem readUnsigned_of_readSigned {base : Nat} {cs : List Char} {i : Int}
    (read : readSigned base cs = some i) (positive : 0 < i) :
    readUnsigned base cs = some i.toNat := by
  unfold readSigned at read
  unfold readUnsigned
  split at read
  · obtain ⟨m, lifted, rfl⟩ := Option.map_eq_some_iff.mp read
    obtain ⟨n, _, same⟩ := Option.bind_eq_some_iff.mp lifted
    cases same
    omega
  · obtain ⟨n, digits, rfl⟩ := Option.map_eq_some_iff.mp read
    exact digits
  next =>
    obtain ⟨n, digits, rfl⟩ := Option.map_eq_some_iff.mp read
    split
    next rest _ noPlus => exact absurd rfl (noPlus rest)
    next => exact digits

theorem readBits_of_readInt64 {cs : List Char} {i : Int} (read : readInt64 cs = some i)
    (positive : 0 < i) : readBits 64 cs = some i.toNat := by
  obtain ⟨signed, fits⟩ := Option.filter_eq_some_iff.mp read
  have small : i.toNat < Nat.pow 2 64 := by
    simp only [fitsInt64, Bool.and_eq_true, decide_eq_true_eq] at fits
    have bound : Nat.pow 2 64 = 18446744073709551616 := rfl
    omega
  rw [readBits, readUnsigned_of_readSigned signed positive, Option.filter_some,
    if_pos (decide_eq_true small)]

theorem readSigned_of_readUnsigned {base : Nat} {cs : List Char} {n : Nat}
    (read : readUnsigned base cs = some n) : readSigned base cs = some (n : Int) := by
  unfold readSigned
  split
  next rest =>
    -- a minus is no digit
    have nothing : readUnsigned base ('-' :: rest) = none := rfl
    rw [nothing] at read
    contradiction
  next rest => exact congrArg (Option.map Int.ofNat) read
  next _ noMinus noPlus =>
    have digits : readUnsigned base cs = readDigits base cs := by
      unfold readUnsigned
      split
      next rest => exact absurd rfl (noPlus rest)
      next => rfl
    rw [← digits, read]
    rfl

theorem readInt64_of_readBits {cs : List Char} {n : Nat} (read : readBits 64 cs = some n)
    (fits : fitsInt64 n = true) : readInt64 cs = some (n : Int) := by
  obtain ⟨unsigned, _⟩ := Option.filter_eq_some_iff.mp read
  rw [readInt64, readSigned_of_readUnsigned unsigned, Option.filter_some, if_pos fits]

end LayeredConfig.Number
