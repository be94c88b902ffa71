import LayeredConfig.Change

/-!
# A configuration against itself

Every value equals itself but the floating-point `nan`.  One setting alone is a
floating-point number, so that setting alone can differ from itself.

Main statement: `Summary.isEmpty_between_self`.
-/

namespace LayeredConfig

open Number

theorem Number.Binary64.equal_self_iff (x : Binary64) : x.equal x = true ↔ x ≠ .nan := by
  cases x with
  | nan => simp [equal]
  | infinite n => simp [equal]
  | finite n size => simp [equal]

theorem Value.equal_self_iff (v : Value) : v.equal v = true ↔ v ≠ .float .nan := by
  cases v with
  | float x =>
      rw [equal, Binary64.equal_self_iff, ne_eq, ne_eq, Value.float.injEq]
  | _ => simp [equal]

theorem Setting.eq_of_kind_float {s : Setting} (float : s.kind = .float) :
    s = .engineCpuThresholdScale := by
  have only : ∀ s ∈ Setting.all, s.kind = .float → s = .engineCpuThresholdScale := by decide
  exact only s s.mem_all float

theorem Kind.eq_float_of_toValue {k : Kind} {v : k.Carrier} {x : Binary64}
    (same : k.toValue v = .float x) : k = .float := by
  cases k with
  | float => rfl
  | optionalText => cases v <;> cases same
  | _ => cases same

/-- The only floating-point number of a configuration. -/
theorem Config.leaf_eq_float_iff (c : Config) (s : Setting) (x : Binary64) :
    c.leaf s = .float x ↔ s = .engineCpuThresholdScale ∧ c .engineCpuThresholdScale = x := by
  constructor
  · intro same
    obtain rfl := Setting.eq_of_kind_float (Kind.eq_float_of_toValue same)
    exact ⟨rfl, Value.float.inj same⟩
  · rintro ⟨rfl, rfl⟩
    rfl

namespace Summary

theorem normal_eq_float_iff (s : Setting) (v : Value) (x : Binary64) :
    normal s v = .float x ↔ v = .float x := by
  unfold normal
  cases v with
  | text t => by_cases joined : s.isCommaList = true <;> simp [joined]
  | _ => rfl

theorem differs_self_iff (c : Config) (s : Setting) :
    differs c c s = true ↔
      s = .engineCpuThresholdScale ∧ c .engineCpuThresholdScale = .nan := by
  rw [differs, Bool.not_eq_true', ← Bool.not_eq_true, Value.equal_self_iff, ne_eq,
    Decidable.not_not, normal_eq_float_iff, Config.leaf_eq_float_iff]

/-- Nothing changed from a configuration to itself, unless the threshold is no number. -/
theorem isEmpty_between_self (r : Registry) (c : Config) :
    (between r c c).isEmpty = true ↔ c .engineCpuThresholdScale ≠ .nan := by
  have nothing : (between r c c).isEmpty = true ↔ ∀ s ∈ Setting.all, ¬differs c c s = true := by
    rw [isEmpty, changes_between, List.isEmpty_iff, List.map_eq_nil_iff, List.filter_eq_nil_iff]
  rw [nothing]
  simp only [differs_self_iff, not_and]
  constructor
  · intro each
    exact each .engineCpuThresholdScale (Setting.mem_all _) rfl
  · intro number s _ _
    exact number

/-- Where nothing changed nothing has to be restarted. -/
theorem restartRequired_of_isEmpty {s : Summary} (empty : s.isEmpty = true) :
    s.restartRequired = false := by
  rw [isEmpty, List.isEmpty_iff] at empty
  rw [← Bool.not_eq_true, s.restartRequired_iff, empty]
  simp

end Summary

end LayeredConfig
