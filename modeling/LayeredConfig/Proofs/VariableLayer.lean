import LayeredConfig.Proofs.File.Merge
import LayeredConfig.Proofs.Variable
import Mathlib.Data.List.Basic

/-!
# What the layer of the variables makes of a setting

Every setting is read once, and what its variables supply reaches its own place,
or for the older credentials theirs.  So what all variables make of a place is
what the two variables of its setting make of it.  An address for the metrics
also switches the metrics on, so that switch is left out here.

Main statements: `VariableLayer.at_of_yields_merge`,
`VariableLayer.leaf_of_yields_fold`, `VariableLayer.root_of_yields_merge`.
-/

namespace LayeredConfig

open Text Reading

variable {values : String → Option String}

namespace VariableLayer

open FileKey

/-! ## One setting -/

theorem at_place {l : Layered} {k : FileKey} {v : Value} (fits : v.IsOf k.setting.kind)
    {c : FileKey} (noSwitch : c.setting ≠ .metricsEnabled) :
    (place l k v).at c = if k.cell = c.cell then v else l.at c := by
  rw [← File.at_place fits]
  unfold place
  simp only
  split
  next =>
    rcases c.cell_cases with rfl | rfl | ⟨_, atLeaf, _⟩
    · rfl
    · rfl
    · rw [atLeaf, atLeaf]
      exact Config.leaf_set_other _ _ noSwitch
  next => rfl

theorem setting_olderKey (s : Setting) : (olderKey s).setting = s := by
  unfold olderKey
  split <;> rfl

theorem setting_cell (c : FileKey) : c.cell.setting = c.setting := by
  rcases c.cell_cases with rfl | rfl | ⟨cellOf, _⟩
  · rfl
  · rfl
  · rw [cellOf]
    rfl

def supply (values : String → Option String) (s : Setting) (c : FileKey) : Option Value :=
  (if (own s).cell = c.cell then Value.fromVariable values s else none).or
    (if (olderKey s).cell = c.cell then Value.fromOlderVariable values s else none)

theorem supply_other {s : Setting} {c : FileKey} (differ : s ≠ c.setting) :
    supply values s c = none := by
  have apart : ∀ k : FileKey, k.setting = s → k.cell ≠ c.cell := by
    rintro k rfl same
    rw [← setting_cell k, same, setting_cell] at differ
    exact differ rfl
  rw [supply, if_neg (apart _ rfl), if_neg (apart _ (setting_olderKey s))]
  rfl

def readLegacy (s : Setting) : Reading (Option Value) :=
  match s.row.legacy with
  | some name => readOlder s name
  | none => pure none

def readPrimary (s : Setting) : Reading (Option Value) :=
  match s.row.primary with
  | some name => read s name
  | none => pure none

/-- The configuration with a value under a key, if there is one. -/
def placeIf (l : Layered) (k : FileKey) : Option Value → Layered
  | some v => place l k v
  | none => l

theorem applySetting_eq (l : Layered) (s : Setting) :
    applySetting l s =
      if s.isReadFromVariables then do
        let older ← readLegacy s
        let newer ← readPrimary s
        return placeIf (placeIf l (olderKey s) older) (own s) newer
      else return l := by
  unfold applySetting readLegacy readPrimary
  cases s.row.legacy <;> cases s.row.primary <;> rfl

theorem eq_of_kind_tokens {s : Setting} (tokens : s.kind = .tokens) : s = .apiTokens := by
  cases s <;> first | rfl | contradiction

theorem exists_of_readLegacy (s : Setting) : ∃ v, Yields values (readLegacy s) v := by
  unfold readLegacy
  by_cases tokens : s.kind = .tokens
  · rw [eq_of_kind_tokens tokens]
    exact ⟨none, yields_pure.mpr rfl⟩
  · cases s.row.legacy with
    | none => exact ⟨none, yields_pure.mpr rfl⟩
    | some name => exact ⟨_, (yields_readOlder tokens).mpr rfl⟩

theorem eq_of_yields_readLegacy {s : Setting} {v : Option Value}
    (run : Yields values (readLegacy s) v) : Value.fromOlderVariable values s = v := by
  unfold readLegacy at run
  unfold Value.fromOlderVariable
  cases known : s.row.legacy with
  | none =>
      rw [known] at run
      exact yields_pure.mp run
  | some name =>
      rw [known] at run
      exact eq_of_yields_readOlder run

theorem eq_of_yields_readPrimary {s : Setting} {v : Option Value}
    (run : Yields values (readPrimary s) v) : Value.fromVariable values s = v := by
  unfold readPrimary at run
  unfold Value.fromVariable
  cases known : s.row.primary with
  | none =>
      rw [known] at run
      exact yields_pure.mp run
  | some name =>
      rw [known] at run
      exact eq_of_yields_read run

theorem at_placeIf {l : Layered} {k : FileKey} {given : Option Value}
    (fits : ∀ v, given = some v → v.IsOf k.setting.kind) {c : FileKey}
    (noSwitch : c.setting ≠ .metricsEnabled) :
    (placeIf l k given).at c = (if k.cell = c.cell then given else none).getD (l.at c) := by
  cases given with
  | none =>
      rw [ite_self]
      rfl
  | some v =>
      rw [placeIf, at_place (fits v rfl) noSwitch]
      split <;> rfl

/-- What a setting supplies reaches its place, unless the setting is skipped. -/
theorem at_of_yields_applySetting {l l' : Layered} {s : Setting}
    (run : Yields values (applySetting l s) l') {c : FileKey}
    (noSwitch : c.setting ≠ .metricsEnabled) :
    l'.at c =
      if s.isReadFromVariables = true then (supply values s c).getD (l.at c) else l.at c := by
  rw [applySetting_eq] at run
  split at run
  next isRead =>
    obtain ⟨older, fromOlder, run⟩ := yields_bind.mp run
    obtain ⟨newer, fromNewer, run⟩ := yields_bind.mp run
    have suppliedOlder := eq_of_yields_readLegacy fromOlder
    have suppliedNewer := eq_of_yields_readPrimary fromNewer
    have fitsOlder : ∀ v, older = some v → v.IsOf (olderKey s).setting.kind := by
      rintro v rfl
      rw [setting_olderKey]
      exact Value.isOf_of_fromOlderVariable suppliedOlder
    have fitsNewer : ∀ v, newer = some v → v.IsOf (own s).setting.kind := by
      rintro v rfl
      exact Value.isOf_of_fromVariable suppliedNewer
    rw [← yields_pure.mp run, at_placeIf fitsNewer noSwitch, at_placeIf fitsOlder noSwitch,
      if_pos isRead, supply, suppliedOlder, suppliedNewer, Option.getD_or]
  next skipped => rw [← yields_pure.mp run, if_neg skipped]

/-! ## All variables -/

theorem at_of_yields_fold {l l' : Layered}
    (run : Yields values (Setting.all.foldlM applySetting l) l') {c : FileKey}
    (noSwitch : c.setting ≠ .metricsEnabled) (counted : c.setting ≠ .hlsRoot) :
    l'.at c = (supply values c.setting c).getD (l.at c) := by
  have folded := view_foldlM (fun t : Layered => t.at c)
    (fun v s => if s = c.setting then (supply values s c).getD v else v)
    (fun s _ t t' step => by
      refine (at_of_yields_applySetting step noSwitch).trans ?_
      by_cases own : s = c.setting
      · rw [if_pos own, if_pos (by simpa [own, Setting.isReadFromVariables] using counted)]
      · rw [if_neg own, supply_other own, Option.getD_none, ite_self]) run
  -- Only the step of its own setting reaches a place, and every setting is there once.
  have once : Setting.all.filter (fun s => s = c.setting) = [c.setting] := by
    cases c.setting <;> rfl
  have kept : (Setting.all.filter fun s => s = c.setting).foldl
      (fun v s => (supply values s c).getD v) (l.at c) =
      Setting.all.foldl (fun v s => if s = c.setting then (supply values s c).getD v else v)
        (l.at c) := by
    rw [List.foldl_filter]
    simp only [decide_eq_true_eq]
  rw [folded, ← kept, once]
  rfl

/-- The variables leave the root of the live stream alone. -/
theorem root_of_yields_fold {l l' : Layered}
    (run : Yields values (Setting.all.foldlM applySetting l) l') :
    l'.config.leaf .hlsRoot = l.config.leaf .hlsRoot := by
  have folded := view_foldlM (fun t : Layered => t.at (own .hlsRoot)) (fun v _ => v)
    (fun s _ t t' step => by
      refine (at_of_yields_applySetting step (by decide)).trans ?_
      by_cases skipped : s = .hlsRoot
      · rw [skipped]
        rfl
      · rw [supply_other skipped, Option.getD_none, ite_self]) run
  rw [List.foldl_fixed] at folded
  exact folded

theorem at_tidy {l : Layered} {c : FileKey} (noMode : c.setting ≠ .receiverAuthMode) :
    (tidy l).at c = l.at c := by
  rcases c.cell_cases with rfl | rfl | ⟨_, atLeaf, _⟩
  · rfl
  · rfl
  · rw [atLeaf, atLeaf]
    exact Config.leaf_set_other _ _ noMode

theorem leaf_tidy (l : Layered) :
    (tidy l).config.leaf .receiverAuthMode =
      .text (String.ofList (lowerAscii (trim (l.config .receiverAuthMode).toList))) :=
  Config.leaf_set_same _ _ _

theorem at_of_yields_merge {l l' : Layered} (run : Yields values (merge l) l') {c : FileKey}
    (noSwitch : c.setting ≠ .metricsEnabled) (counted : c.setting ≠ .hlsRoot)
    (noMode : c.setting ≠ .receiverAuthMode) :
    l'.at c = (supply values c.setting c).getD (l.at c) := by
  obtain ⟨folded, all, same⟩ := yields_bind.mp run
  rw [← yields_pure.mp same, at_tidy noMode, at_of_yields_fold all noSwitch counted]

theorem root_of_yields_merge {l l' : Layered} (run : Yields values (merge l) l') :
    l'.config.leaf .hlsRoot = l.config.leaf .hlsRoot := by
  obtain ⟨folded, all, same⟩ := yields_bind.mp run
  rw [← yields_pure.mp same]
  exact (at_tidy (c := own .hlsRoot) (by decide)).trans (root_of_yields_fold all)

/-- The variable of a setting counts, else the older one, else the value below stays. -/
theorem supply_own {s : Setting} (noUsername : s ≠ .receiverUsername)
    (noPassword : s ≠ .receiverPassword) :
    supply values s (own s) =
      (Value.fromVariable values s).or (Value.fromOlderVariable values s) := by
  have together : olderKey s = own s := by
    rw [olderKey, if_neg (not_or.mpr ⟨noUsername, noPassword⟩)]
  rw [supply, together, if_pos rfl, if_pos rfl]

theorem leaf_of_yields_fold {l l' : Layered}
    (run : Yields values (Setting.all.foldlM applySetting l) l') {s : Setting}
    (noSwitch : s ≠ .metricsEnabled) (counted : s ≠ .hlsRoot) (noUsername : s ≠ .receiverUsername)
    (noPassword : s ≠ .receiverPassword) :
    l'.config.leaf s =
      ((Value.fromVariable values s).or (Value.fromOlderVariable values s)).getD
        (l.config.leaf s) := by
  rw [← supply_own noUsername noPassword]
  exact at_of_yields_fold (c := own s) run noSwitch counted

end VariableLayer

end LayeredConfig
