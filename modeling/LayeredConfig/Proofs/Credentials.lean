import LayeredConfig.Credentials
import LayeredConfig.Proofs.Success

/-!
# What the credential mode makes of two pairs

The mode is settled if its text names one, both pairs are whole and `none` meets
no credentials.  The pair that counts is then one of the two as a whole, or
empty; its halves never come from different pairs.

Main statements: `Credentials.settle_eq_ok`, `CredentialMode.isWhole_choose`.
-/

namespace LayeredConfig

open Text Success

namespace Credentials

/-- Both halves are set, or neither is. -/
def IsWhole (pair : Credentials) : Prop := pair.username = "" ↔ pair.password = ""

instance (pair : Credentials) : Decidable pair.IsWhole :=
  inferInstanceAs (Decidable (_ ↔ _))

theorem isEmpty_eq_true_iff {pair : Credentials} : pair.isEmpty = true ↔ pair = {} := by
  cases pair
  simp [isEmpty]

theorem checkPair_eq_ok {key : String} {pair : Credentials} :
    checkPair key pair = .ok () ↔ pair.IsWhole := by
  have half : pair.isHalf = true ↔ ¬pair.IsWhole := by
    rw [isHalf, bne_iff_ne, IsWhole, ne_eq, Bool.eq_iff_iff, String.isEmpty_iff,
      String.isEmpty_iff]
  unfold checkPair
  split
  next broken => simp [half.mp broken]
  next fine => simp [Decidable.not_not.mp (mt half.mpr fine)]

end Credentials

namespace CredentialMode

variable {own older : Credentials}

/-- Behind `inherit` the older pair fills in for an empty one. -/
theorem choose_inherit : choose .inherit own older = if own = {} then older else own := by
  unfold choose
  by_cases nothing : own = {}
  · rw [if_pos nothing, Credentials.isEmpty_eq_true_iff.mpr nothing, Bool.true_and]
    -- where both are empty it does not matter which of them counts
    by_cases neither : older = {}
    · rw [nothing, neither]
      exact ite_self _
    · rw [Bool.eq_false_iff.mpr (mt Credentials.isEmpty_eq_true_iff.mp neither)]
      rfl
  · rw [if_neg nothing, Bool.eq_false_iff.mpr (mt Credentials.isEmpty_eq_true_iff.mp nothing)]
    rfl

theorem choose_cases (mode : CredentialMode) (own older : Credentials) :
    mode.choose own older = own ∨ mode.choose own older = older ∨ mode.choose own older = {} := by
  cases mode with
  | inherit =>
      rw [choose_inherit]
      split
      · exact Or.inr (Or.inl rfl)
      · exact Or.inl rfl
  | none => exact Or.inr (Or.inr rfl)
  | explicit => exact Or.inl rfl

theorem isWhole_choose {mode : CredentialMode} (wholeOwn : own.IsWhole)
    (wholeOlder : older.IsWhole) : (mode.choose own older).IsWhole := by
  rcases mode.choose_cases own older with same | same | same <;> rw [same]
  · exact wholeOwn
  · exact wholeOlder
  · exact Iff.rfl

theorem eq_of_name {mode other : CredentialMode} (same : mode.name = other.name) :
    mode = other := by
  cases mode <;> cases other <;> first | rfl | exact absurd same (by decide)

/-- The name of a mode is the word it was read from, in its usual spelling. -/
theorem name_of_read {text : String} {mode : CredentialMode} (found : read text = .ok mode) :
    mode.name =
      let word := String.ofList (lowerAscii (trim text.toList))
      if word = "" then "inherit" else word := by
  unfold read at found
  generalize String.ofList (lowerAscii (trim text.toList)) = word at found ⊢
  simp only at found ⊢
  split at found
  next =>
    cases found
    rw [if_pos rfl]
    rfl
  all_goals first | contradiction | cases found
  all_goals
    rw [if_neg (by decide)]
    rfl

end CredentialMode

namespace Credentials

variable {c c' : Config} {older : Credentials} {mode : CredentialMode}

/-- The mode is settled if its text names one, both pairs are whole and `none` meets no
credentials; then the pair that counts is put in place. -/
theorem settle_eq_ok :
    settle c older = .ok (mode, c') ↔
      CredentialMode.read (c .receiverAuthMode) = .ok mode ∧ (ofConfig c).IsWhole ∧
        older.IsWhole ∧ (mode = .none → ofConfig c = {}) ∧
          place (c.set .receiverAuthMode mode.name) (mode.choose (ofConfig c) older) = c' := by
  have forbidden (found : CredentialMode) :
      ¬(found = .none ∧ !(ofConfig c).isEmpty) ↔ (found = .none → ofConfig c = {}) := by
    rw [not_and, Bool.not_eq_true', Bool.not_eq_false, isEmpty_eq_true_iff]
  constructor
  · intro done
    obtain ⟨⟨found, settled⟩, first, same⟩ := bind_eq_ok.mp done
    cases pure_eq_ok.mp same
    obtain ⟨named, read, rest⟩ := bind_eq_ok.mp first
    obtain ⟨_, own, rest⟩ := bind_eq_ok.mp rest
    obtain ⟨_, other, rest⟩ := bind_eq_ok.mp rest
    split at rest
    next => cases rest
    next allowed =>
      cases pure_eq_ok.mp rest
      exact ⟨read, checkPair_eq_ok.mp own, checkPair_eq_ok.mp other, (forbidden _).mp allowed, rfl⟩
  · rintro ⟨read, own, other, allowed, rfl⟩
    refine bind_eq_ok.mpr ⟨(mode, c.set .receiverAuthMode mode.name), ?_, rfl⟩
    refine bind_eq_ok.mpr ⟨mode, read, bind_eq_ok.mpr ⟨(), checkPair_eq_ok.mpr own, ?_⟩⟩
    refine bind_eq_ok.mpr ⟨(), checkPair_eq_ok.mpr other, ?_⟩
    rw [if_neg ((forbidden mode).mpr allowed)]
    rfl

end Credentials

end LayeredConfig
