import LayeredConfig.Loader
import LayeredConfig.Proofs.Default

/-!
# The defaults of the built-in registry

The entries of the built-in registry are those of all settings, each once, and
every default is of the kind of its setting.  Applied to the empty configuration
they give each leaf its own default, and one without a default keeps the empty
value.

Main statements: `Registry.leaf_defaults`, `Loader.base_builtIn`.
-/

namespace LayeredConfig

def Setting.fallback (s : Setting) : LayeredConfig.Value :=
  s.kind.toValue (s.default.getD s.kind.empty)

namespace Registry

theorem settings_builtIn : builtIn.entries.map Entry.setting = Setting.all := by
  have own : Entry.setting ∘ Entry.ofSetting = id := rfl
  rw [builtIn, builtInEntries, List.map_map, own, List.map_id]

theorem fits_builtIn : ∀ e ∈ builtIn.entries, e.Fits := by
  intro e member
  obtain ⟨s, _, rfl⟩ := List.mem_map.mp member
  intro v declared
  obtain ⟨given, _, same⟩ := Option.map_eq_some_iff.mp declared
  exact ⟨given, same⟩

/-- The entry of a setting makes the fallback of the empty value. -/
theorem laid_ofSetting (s : Setting) :
    (Entry.ofSetting s).laid (s.kind.toValue s.kind.empty) = s.fallback := by
  have declared : (Entry.ofSetting s).default = s.default.map s.kind.toValue := rfl
  unfold Entry.laid Setting.fallback
  rw [declared]
  cases s.default with
  | none => rfl
  | some v =>
      refine if_neg fun kept => kept.2 ?_
      rw [show s.kind = .optionalText from kept.1]
      rfl

theorem applyDefaults_builtIn :
    ∃ c, builtIn.applyDefaults .empty = (c, .ok ()) ∧ ∀ s, c.leaf s = s.fallback := by
  have distinct : (builtIn.entries.map Entry.setting).Nodup := by
    rw [settings_builtIn]
    exact Setting.nodup_all
  obtain ⟨c, applied, filled⟩ := exists_filled distinct fits_builtIn .empty
  refine ⟨c, ?_, fun s => ?_⟩
  · have whole := applied []
    rw [List.append_nil] at whole
    exact whole
  · rw [← laid_ofSetting]
    exact filled.laid (Entry.ofSetting s) (List.mem_map_of_mem s.mem_all)

theorem leaf_defaults (s : Setting) : builtIn.defaults.leaf s = s.fallback := by
  obtain ⟨c, applied, leaves⟩ := applyDefaults_builtIn
  rw [defaults, applied, leaves]

theorem checkCoverage_builtIn : builtIn.checkCoverage = .ok () := by
  have covered : ∀ s, (builtIn.bySetting s).isNone = false := by
    intro s
    obtain ⟨e, member, same⟩ := builtIn_covers s
    rw [Option.isNone_eq_false_iff, bySetting, List.find?_isSome]
    exact ⟨e, member, decide_eq_true same⟩
  unfold checkCoverage
  have nothing : Setting.all.find? (fun s => (builtIn.bySetting s).isNone) = none := by
    simp [covered]
  rw [nothing]

end Registry

/-- A load with the built-in registry starts from its defaults. -/
theorem Loader.base_builtIn : base .builtIn = .ok Registry.builtIn.defaults := by
  obtain ⟨c, applied, _⟩ := Registry.applyDefaults_builtIn
  unfold base Registry.defaults
  rw [applied, Registry.checkCoverage_builtIn]
  rfl

end LayeredConfig
