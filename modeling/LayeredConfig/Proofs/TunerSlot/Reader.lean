import LayeredConfig.Proofs.Number.Literal
import LayeredConfig.Proofs.Success
import LayeredConfig.Proofs.Text.Cut
import LayeredConfig.TunerSlot
import Mathlib.Data.List.Forall2

/-!
# Lists of tuner slots

A segment of a list stands for one slot or for a range of slots, and a list
stands for what its segments stand for, one behind the other.  The reader takes
the texts whose segments all stand for slots, and no others.  The bounds are
checked before a range is unfolded, so no segment gives more slots than there
are.

Main statements: `ofSegment_eq_ok_iff`, `ofSegments_eq_ok_iff`,
`unfolded_of_readAll`.
-/

namespace LayeredConfig.TunerSlot

open Text Number Success

/-! ## What a segment stands for -/

/-- One of the slots that there are. -/
def InRange (slot : Int) : Prop := 0 ≤ slot ∧ slot ≤ max

instance (slot : Int) : Decidable (InRange slot) :=
  inferInstanceAs (Decidable (0 ≤ slot ∧ slot ≤ max))

/-- The slots from one to another, in order. -/
def fromTo (low high : Int) : List Int :=
  (List.range (high - low + 1).toNat).map fun k : Nat => low + k

/-- What a segment stands for: one slot, or the slots between the numbers around its first dash. -/
inductive Denotes : (segment : List Char) → (slots : List Int) → Prop
  | single {segment : List Char} {slot : Int} : '-' ∉ segment → IsInt64 segment slot →
      InRange slot → Denotes segment [slot]
  | range {before after : List Char} {low high : Int} : '-' ∉ before →
      IsInt64 (trim before) low → IsInt64 (trim after) high →
      0 ≤ low → low ≤ high → high ≤ max → Denotes (before ++ '-' :: after) (fromTo low high)

theorem length_fromTo (low high : Int) : (fromTo low high).length = (high - low + 1).toNat := by
  rw [fromTo, List.length_map, List.length_range]

theorem mem_fromTo {low high slot : Int} : slot ∈ fromTo low high ↔ low ≤ slot ∧ slot ≤ high := by
  rw [fromTo, List.mem_map]
  constructor
  · rintro ⟨k, member, rfl⟩
    have below := List.mem_range.mp member
    omega
  · rintro ⟨above, below⟩
    exact ⟨(slot - low).toNat, List.mem_range.mpr (by omega), by omega⟩

theorem Denotes.inRange {segment : List Char} {slots : List Int} (denotes : Denotes segment slots) :
    ∀ slot ∈ slots, InRange slot := by
  intro slot member
  cases denotes with
  | single _ _ inRange => exact List.mem_singleton.mp member ▸ inRange
  | range _ _ _ low _ high =>
      obtain ⟨above, below⟩ := mem_fromTo.mp member
      exact ⟨Int.le_trans low above, Int.le_trans below high⟩

/-- A segment stands for no more slots than there are. -/
theorem Denotes.length_le {segment : List Char} {slots : List Int}
    (denotes : Denotes segment slots) : slots.length ≤ 256 := by
  cases denotes with
  | single => exact Nat.le_of_ble_eq_true rfl
  | range _ _ _ low _ high =>
      rw [length_fromTo]
      have top : max = 255 := rfl
      omega

/-! ## One segment -/

theorem run_eq (low : Int) (count : Nat) :
    run low count = (List.range count).map fun k : Nat => low + k := by
  induction count generalizing low with
  | zero => rfl
  | succ count ih =>
      rw [run, ih, List.range_succ_eq_map, List.map_cons, List.map_map]
      refine congrArg₂ _ (by omega) (List.map_congr_left fun k _ => ?_)
      simp only [Function.comp_apply]
      omega

/-- A segment is read exactly if it stands for slots, and as these. -/
theorem ofSegment_eq_ok_iff {segment : List Char} {slots : List Int} :
    ofSegment segment = .ok slots ↔ Denotes segment slots := by
  constructor
  · intro read
    unfold ofSegment at read
    split at read
    next before after cut =>
      obtain ⟨free, rfl⟩ := cutOnce_eq_some_iff.mp cut
      split at read
      next low high first last =>
        split at read
        next bounds =>
          cases read
          rw [run_eq]
          exact .range free (readInt64_eq_some_iff.mp first) (readInt64_eq_some_iff.mp last)
            bounds.2.1 bounds.1 bounds.2.2
        next => contradiction
      next => contradiction
    next uncut =>
      split at read
      next => contradiction
      next slot number =>
        split at read
        next => contradiction
        next notNegative =>
          split at read
          next => contradiction
          next notAbove =>
            cases read
            exact .single (cutOnce_eq_none_iff.mp uncut) (readInt64_eq_some_iff.mp number)
              ⟨Int.not_lt.mp notNegative, Int.not_lt.mp notAbove⟩
  · intro denotes
    cases denotes with
    | single free number inRange =>
        rw [ofSegment, cutOnce_eq_none_iff.mpr free]
        simp only [readInt64_eq_some_iff.mpr number, if_neg (Int.not_lt.mpr inRange.1),
          if_neg (Int.not_lt.mpr inRange.2)]
    | range free first last low between high =>
        rw [ofSegment, cutOnce_append free]
        simp only [readInt64_eq_some_iff.mpr first, readInt64_eq_some_iff.mpr last,
          if_pos (And.intro between (And.intro low high)), run_eq]
        rfl

/-! ## Whole lists -/

/-- A list is read exactly if each of its segments stands for slots, and as these one behind the
other. -/
theorem ofSegments_eq_ok_iff {list : List (List Char)} {slots : List Int} :
    ofSegments list = .ok slots ↔
      ∃ parts, List.Forall₂ Denotes list parts ∧ parts.flatten = slots := by
  induction list generalizing slots with
  | nil => simp [ofSegments, eq_comm]
  | cons segment rest ih =>
      simp only [ofSegments, bind_eq_ok, pure_eq_ok, ofSegment_eq_ok_iff, ih]
      constructor
      · rintro ⟨part, denotes, _, ⟨parts, each, rfl⟩, rfl⟩
        exact ⟨part :: parts, .cons denotes each, rfl⟩
      · rintro ⟨_, each, rfl⟩
        cases each with
        | cons denotes each => exact ⟨_, denotes, _, ⟨_, each, rfl⟩, rfl⟩

/-- All segments stand for slots if each one does. -/
theorem exists_denotes_iff {list : List (List Char)} :
    (∃ parts, List.Forall₂ Denotes list parts) ↔
      ∀ segment ∈ list, ∃ slots, Denotes segment slots := by
  induction list with
  | nil => exact iff_of_true ⟨[], .nil⟩ nofun
  | cons segment rest ih =>
      rw [List.forall_mem_cons, ← ih]
      constructor
      · rintro ⟨_, each⟩
        cases each with
        | cons denotes behind => exact ⟨⟨_, denotes⟩, ⟨_, behind⟩⟩
      · rintro ⟨⟨slots, denotes⟩, ⟨parts, behind⟩⟩
        exact ⟨slots :: parts, .cons denotes behind⟩

theorem inRange_of_readAll {raw : String} {slots : List Int} (read : readAll raw = .ok slots) :
    ∀ slot ∈ slots, InRange slot := by
  obtain ⟨parts, each, rfl⟩ := ofSegments_eq_ok_iff.mp read
  clear read
  generalize segments ',' raw.toList = list at each
  induction each with
  | nil => exact nofun
  | cons denotes _ ih =>
      rw [List.flatten_cons, List.forall_mem_append]
      exact ⟨denotes.inRange, ih⟩

/-! ## Slots that are printed -/

/-- A printed slot is a segment that stands for it. -/
theorem denotes_toString {slot : Int} (inRange : InRange slot) :
    IsSegment ',' (toString slot).toList ∧ Denotes (toString slot).toList [slot] := by
  obtain ⟨n, rfl⟩ := Int.eq_ofNat_of_zero_le inRange.1
  have small : (n : Int) ≤ 255 := inRange.2
  have noDigit : ∀ c : Char, c.isDigit = false → c ∉ (toString (n : Int)).toList := by
    intro c noDigit member
    rw [isDigit_of_mem_toString member] at noDigit
    contradiction
  refine ⟨⟨noDigit _ rfl, ?_, ?_⟩, ?_⟩
  · refine trim_of_filled fun c member => ?_
    obtain ⟨low, high⟩ := isDigit_cases (isDigit_of_mem_toString member)
    exact isBlank_eq_false (by omega) (by omega)
  · rw [toList_toString]
    exact Nat.toDigits_ne_nil
  · exact .single (noDigit _ rfl) (readInt64_eq_some_iff.mp (readInt64_toString (by omega))) inRange

/-- Printed slots are read back. -/
theorem readAll_write {slots : List Int} (each : ∀ slot ∈ slots, InRange slot) :
    readAll (write slots) = .ok slots := by
  have cut : segments ',' (write slots).toList = slots.map fun slot => (toString slot).toList := by
    rw [write, show (",".intercalate (slots.map toString)).toList =
      joinWith ',' ((slots.map toString).map String.toList) from toList_intercalate ',' _,
      List.map_map, segments_joinWith]
    · rfl
    · exact List.forall_mem_map.mpr fun slot member => (denotes_toString (each slot member)).1
  rw [readAll, cut, ofSegments_eq_ok_iff]
  refine ⟨slots.map ([·]), ?_, List.flatMap_singleton' slots⟩
  rw [List.forall₂_map_left_iff, List.forall₂_map_right_iff, List.forall₂_same]
  exact fun slot member => (denotes_toString (each slot member)).2

/-- A text is read if every segment stands for slots, as what the segments stand for one behind the
other.  No segment gives more than 256 slots, all of them slots that there are, and slots that are
printed are read back. -/
theorem unfolded_of_readAll :
    (∀ raw, (∃ slots, readAll raw = .ok slots) ↔
      ∀ segment ∈ segments ',' raw.toList, ∃ slots, Denotes segment slots) ∧
    (∀ raw slots, readAll raw = .ok slots ↔
      ∃ parts, List.Forall₂ Denotes (segments ',' raw.toList) parts ∧ parts.flatten = slots) ∧
    (∀ segment slots, ofSegment segment = .ok slots →
      slots.length ≤ 256 ∧ ∀ slot ∈ slots, InRange slot) ∧
    (∀ slots, (∀ slot ∈ slots, InRange slot) → readAll (write slots) = .ok slots) := by
  refine ⟨fun raw => ?_, fun raw slots => ofSegments_eq_ok_iff, ?_, fun slots => readAll_write⟩
  · rw [← exists_denotes_iff]
    constructor
    · rintro ⟨slots, read⟩
      obtain ⟨parts, each, _⟩ := ofSegments_eq_ok_iff.mp read
      exact ⟨parts, each⟩
    · rintro ⟨parts, each⟩
      exact ⟨parts.flatten, ofSegments_eq_ok_iff.mpr ⟨parts, each, rfl⟩⟩
  · intro segment slots read
    have denotes := ofSegment_eq_ok_iff.mp read
    exact ⟨denotes.length_le, denotes.inRange⟩

/-- The widest range gives all slots, and the first and the last slot are read back. -/
theorem unfolded_of_readAll_widest :
    (∃ slots, ofSegment "0-255".toList = .ok slots ∧ slots.length = 256 ∧ slots.length ≤ 256) ∧
      readAll (write [0, 255]) = .ok [0, 255] := by
  obtain ⟨_, _, bounded, printed⟩ := unfolded_of_readAll
  obtain ⟨slots, read, all⟩ := exists_ok_of_any (ofSegment "0-255".toList)
    (fun slots => slots.length = 256) (by decide +kernel)
  exact ⟨⟨slots, read, of_decide_eq_true all, (bounded _ slots read).1⟩,
    printed [0, 255] (by decide)⟩

end LayeredConfig.TunerSlot
