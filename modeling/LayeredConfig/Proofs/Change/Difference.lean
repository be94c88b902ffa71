import LayeredConfig.Proofs.Change.Chain
import LayeredConfig.Proofs.Config
import LayeredConfig.Proofs.Text.Cut

/-!
# What a summary of changes lists

Values are compared as their types compare them: floating-point numbers as
numbers, everything else as it stands.  A joined list is compared by its sorted
names.  Sorting and joining loses nothing but the order, since no name holds a
comma, so two lists are equal in this form if and only if the names of one are
those of the other in some order.

Main statement: `Summary.settings_between`.
-/

namespace LayeredConfig

open Number Text

/-! ## Equality of values -/

/-- Two floating-point numbers are the same number: both zeros are, `nan` is no number. -/
inductive Number.Binary64.Same : Binary64 → Binary64 → Prop
  | self (x : Binary64) (number : x ≠ .nan) : Same x x
  | zeros (n n' : Bool) (size : Magnitude) (zero : size.mantissa = 0) :
      Same (.finite n size) (.finite n' size)

/-- Equality as the type of the values has it. -/
def Kind.Same : (k : Kind) → k.Carrier → k.Carrier → Prop
  | .float, x, y => Binary64.Same x y
  | _, x, y => x = y

theorem Number.Binary64.equal_eq_true_iff {x y : Binary64} : x.equal y = true ↔ x.Same y := by
  constructor
  · intro same
    cases x with
    | nan => cases same
    | infinite n =>
        cases y with
        | nan | finite _ _ => cases same
        | infinite n' =>
            obtain rfl : n = n' := by simpa [equal] using same
            exact .self _ Binary64.noConfusion
    | finite n size =>
        cases y with
        | nan | infinite _ => cases same
        | finite n' size' =>
            simp only [equal, Bool.and_eq_true, Bool.or_eq_true, beq_iff_eq] at same
            obtain ⟨rfl, rfl | zero⟩ := same
            · exact .self _ Binary64.noConfusion
            · exact .zeros n n' size zero
  · intro same
    cases same with
    | self _ number => exact (equal_self_iff x).mpr number
    | zeros n n' size zero => simp [equal, zero]

theorem Value.equal_toValue_iff {k : Kind} {x y : k.Carrier} :
    (k.toValue x).equal (k.toValue y) = true ↔ k.Same x y := by
  by_cases float : k = .float
  · subst float
    exact Binary64.equal_eq_true_iff
  · have plain : k.Same x y ↔ x = y := by
      cases k with
      | float => exact absurd rfl float
      | _ => rfl
    rw [plain, ← Kind.toValue_inj]
    constructor
    · intro same
      exact eq_of_equal same fun z isFloat => float (Kind.eq_float_of_toValue isFloat)
    · intro same
      rw [same, equal_self_iff]
      exact fun isFloat => float (Kind.eq_float_of_toValue isFloat)

/-- Two configurations agree on a setting.  The names of a joined list may come in another order. -/
def Config.Agree (old new : Config) : Setting → Prop
  | .bouquets => old.bouquetNames.Perm new.bouquetNames
  | .trustedProxies => old.proxies.Perm new.proxies
  | s => s.kind.Same (old s) (new s)

namespace Summary

/-! ## Joined lists -/

/-- What is compared of a joined list has its names, in order. -/
theorem commaList_sortedList (text : String) :
    commaList (sortedList text) = (commaList text).mergeSort (· ≤ ·) := by
  refine commaList_intercalate_eq_iff.mpr fun name member => ?_
  exact isSegment_of_mem_commaList (List.mem_mergeSort.mp member)

theorem sortedList_eq_iff {a b : String} :
    sortedList a = sortedList b ↔ (commaList a).Perm (commaList b) := by
  rw [← mergeSort_eq_iff_perm]
  constructor
  · intro same
    rw [← commaList_sortedList, ← commaList_sortedList, same]
  · intro sorted
    rw [sortedList, sortedList, sorted]

/-! ## The comparison -/

theorem normal_of_not_isCommaList {s : Setting} (single : s.isCommaList = false) (v : Value) :
    normal s v = v := by
  cases v with
  | text t => rw [normal, single]; rfl
  | _ => rfl

theorem differs_eq_true_iff {old new : Config} {s : Setting} :
    differs old new s = true ↔ ¬old.Agree new s := by
  rw [differs, Bool.not_eq_true', ← Bool.not_eq_true]
  refine not_congr ?_
  have joined : ∀ a b : String,
      (Value.text (sortedList a)).equal (.text (sortedList b)) = true ↔
        (commaList a).Perm (commaList b) := by
    intro a b
    rw [← sortedList_eq_iff]
    exact Value.equal_toValue_iff (k := .text)
  by_cases list : s.isCommaList = true
  · cases s <;> first | contradiction | exact joined _ _
  · have single := Bool.eq_false_iff.mpr list
    rw [normal_of_not_isCommaList single, normal_of_not_isCommaList single]
    have agree : old.Agree new s ↔ s.kind.Same (old s) (new s) := by
      cases s <;> first | rfl | contradiction
    rw [agree]
    exact Value.equal_toValue_iff

theorem isLive_eq_true_iff {r : Registry} {s : Setting} :
    r.isLive s = true ↔
      ∃ e, r.bySetting s = some e ∧ e.liveFlag = true ∧ s ∈ Setting.mayReload := by
  unfold Registry.isLive
  cases found : r.bySetting s with
  | none => simp
  | some e =>
      have picked := List.find?_some found
      have own : e.setting = s := of_decide_eq_true picked
      simp [Entry.isLive, own]

instance (old new : Config) : DecidablePred (old.Agree new) := fun _ =>
  decidable_of_iff (¬differs old new _ = true)
    ((not_congr differs_eq_true_iff).trans Classical.not_not)

/-- A summary lists the settings on which two configurations do not agree, each once and in the
order of listings, and says which of them may change without a restart. -/
theorem settings_between (r : Registry) (old new : Config) :
    (between r old new).changes.map Change.setting =
        Setting.all.filter (fun s => ¬old.Agree new s) ∧
      (∀ change ∈ (between r old new).changes, change.live = true ↔
        ∃ e, r.bySetting change.setting = some e ∧ e.liveFlag = true ∧
          change.setting ∈ Setting.mayReload) ∧
      ((between r old new).restartRequired = true ↔
        ∃ change ∈ (between r old new).changes, change.live = false) ∧
      ((between r old new).restartRequired = false →
        ∀ s, s ∉ Setting.mayReload → old.Agree new s) := by
  have listed : (between r old new).changes.map Change.setting =
      Setting.all.filter fun s => ¬old.Agree new s := by
    have same : differs old new = fun s => decide (¬old.Agree new s) := by
      funext s
      rw [Bool.eq_iff_iff, differs_eq_true_iff, decide_eq_true_eq]
    rw [changes_between, List.map_map, same]
    exact List.map_id _
  have live : ∀ change ∈ (between r old new).changes, change.live = true ↔
      ∃ e, r.bySetting change.setting = some e ∧ e.liveFlag = true ∧
        change.setting ∈ Setting.mayReload := by
    intro change found
    rw [(mem_between.mp found).2.2, isLive_eq_true_iff]
  refine ⟨listed, live, restartRequired_iff _, fun reload s cold => ?_⟩
  refine Classical.byContradiction fun differ => ?_
  have member : s ∈ (between r old new).changes.map Change.setting := by
    rw [listed, List.mem_filter]
    exact ⟨s.mem_all, decide_eq_true differ⟩
  obtain ⟨change, found, rfl⟩ := List.mem_map.mp member
  have frozen : change.live = false := by
    rw [← Bool.not_eq_true, live change found]
    rintro ⟨_, _, _, allowed⟩
    exact cold allowed
  rw [(restartRequired_iff _).mpr ⟨change, found, frozen⟩] at reload
  contradiction

end Summary

end LayeredConfig
