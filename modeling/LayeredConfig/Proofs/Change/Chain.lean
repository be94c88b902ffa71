import LayeredConfig.Proofs.Change

/-!
# Changes along a sequence of configurations

Values that equal one value equal each other, joined lists as they are compared
and floating-point numbers included.  So a setting that differs between the ends
of a sequence differs in some step of it, and is reported there in the same
words.  A `nan` differs from everything, so it is reported in every step.

Main statements: `Summary.mem_between_or`, `Summary.exists_step_of_mem_between`.
-/

namespace LayeredConfig

open Number

theorem Number.Binary64.equal_trans {x y z : Binary64} (first : x.equal y = true)
    (second : y.equal z = true) : x.equal z = true := by
  cases x with
  | nan => cases first
  | infinite n =>
      cases y with
      | nan | finite _ _ => cases first
      | infinite n' =>
          obtain rfl : n = n' := by simpa [equal] using first
          exact second
  | finite n size =>
      cases y with
      | nan | infinite _ => cases first
      | finite n' size' =>
          cases z with
          | nan | infinite _ => cases second
          | finite n'' size'' =>
              -- two numbers of one size differ in sign only if both are zero
              simp only [equal, Bool.and_eq_true, Bool.or_eq_true, beq_iff_eq] at first second ⊢
              obtain ⟨rfl, sign⟩ := first
              obtain ⟨rfl, sign'⟩ := second
              refine ⟨rfl, ?_⟩
              rcases sign with rfl | zero
              · exact sign'
              · exact Or.inr zero

theorem Value.eq_of_equal {u v : Value} (same : u.equal v = true)
    (noFloat : ∀ y, v ≠ .float y) : u = v := by
  unfold equal at same
  split at same
  · next y => exact absurd rfl (noFloat y)
  · exact beq_iff_eq.mp same

theorem Value.equal_trans {u v w : Value} (first : u.equal v = true)
    (second : v.equal w = true) : u.equal w = true := by
  cases v with
  | float y =>
      cases u with
      | float x =>
          cases w with
          | float z => exact Binary64.equal_trans first second
          | _ => simp [equal] at second
      | _ => simp [equal] at first
  | _ =>
      rw [eq_of_equal first fun _ same => by cases same]
      exact second

namespace Summary

variable {r : Registry} {a b c : Config}

/-- Names in order are joined as they stand. -/
theorem sortedList_of_sorted {text : String} (sorted : (Text.commaList text).Pairwise (· ≤ ·)) :
    sortedList text = ",".intercalate (Text.commaList text) := by
  rw [sortedList, List.mergeSort_of_pairwise (sorted.imp decide_eq_true)]

/-- A setting that differs between two configurations differs from any third one in one of
them. -/
theorem differs_or {s : Setting} (ends : differs a c s = true) :
    differs a b s = true ∨ differs b c s = true := by
  cases first : differs a b s with
  | true => exact Or.inl rfl
  | false =>
      cases second : differs b c s with
      | true => exact Or.inr rfl
      | false =>
          rw [differs, Bool.not_eq_eq_eq_not, Bool.not_false] at first second
          rw [differs, Value.equal_trans first second] at ends
          cases ends

theorem mem_between {change : Change} :
    change ∈ (between r a b).changes ↔
      differs a b change.setting = true ∧ change.path = r.shownPath change.setting ∧
        change.live = r.isLive change.setting := by
  simp only [changes_between, List.mem_map, List.mem_filter]
  constructor
  · rintro ⟨s, ⟨_, differ⟩, rfl⟩
    exact ⟨differ, rfl, rfl⟩
  · rintro ⟨differ, path, live⟩
    refine ⟨change.setting, ⟨Setting.mem_all _, differ⟩, ?_⟩
    rw [changeOf, ← path, ← live]

/-- What changed on a way changed on its first part or on the rest of it. -/
theorem mem_between_or (b : Config) {change : Change} (ends : change ∈ (between r a c).changes) :
    change ∈ (between r a b).changes ∨ change ∈ (between r b c).changes := by
  obtain ⟨differ, path, live⟩ := mem_between.mp ends
  rcases differs_or (b := b) differ with first | second
  · exact Or.inl (mem_between.mpr ⟨first, path, live⟩)
  · exact Or.inr (mem_between.mpr ⟨second, path, live⟩)

/-- What changed between the ends of a sequence changed in some step of it. -/
theorem exists_step_of_mem_between (config : Nat → Config) {n : Nat} {change : Change}
    (ends : change ∈ (between r (config 0) (config (n + 1))).changes) :
    ∃ k ≤ n, change ∈ (between r (config k) (config (k + 1))).changes := by
  induction n with
  | zero => exact ⟨0, Nat.le_refl 0, ends⟩
  | succ n ih =>
      rcases mem_between_or (config (n + 1)) ends with before | last
      · obtain ⟨k, within, found⟩ := ih before
        exact ⟨k, Nat.le_succ_of_le within, found⟩
      · exact ⟨n + 1, Nat.le_refl _, last⟩

/-- If every change is reported by some part, so is the need of a restart. -/
theorem exists_restartRequired {ι : Type} {IsPart : ι → Prop} {part : ι → Summary}
    {whole : Summary}
    (reported : ∀ change ∈ whole.changes, ∃ i, IsPart i ∧ change ∈ (part i).changes)
    (restart : whole.restartRequired = true) :
    ∃ i, IsPart i ∧ (part i).restartRequired = true := by
  obtain ⟨change, found, cold⟩ := (restartRequired_iff whole).mp restart
  obtain ⟨i, isPart, there⟩ := reported change found
  exact ⟨i, isPart, (restartRequired_iff _).mpr ⟨change, there, cold⟩⟩

end Summary

end LayeredConfig
