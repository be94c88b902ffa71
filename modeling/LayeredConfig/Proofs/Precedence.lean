import LayeredConfig.Proofs.Load
import LayeredConfig.Proofs.Source

/-!
# Which source a leaf of a loaded configuration comes from

With the built-in registry every leaf of a loaded configuration is what the
first of its sources supplies: its variable, the older variable, its key in the
file, the older name of that key, the default.  The credential mode is kept in
its usual spelling, so there a text is not taken as it stands.

Main statements: `Loader.leaf_of_load`, and the counterexample
`Loader.mode_not_verbatim`.
-/

namespace LayeredConfig

open Text Reading Success

/-- A value as the configuration keeps it.  The credential mode is trimmed and in lower case, and
none at all is `inherit`. -/
def Value.spelled (s : Setting) : Value → Value
  | .text t =>
      if s = .receiverAuthMode then
        let word := String.ofList (lowerAscii (trim t.toList))
        .text (if word = "" then "inherit" else word)
      else .text t
  | v => v

/-- The settings that the four sources and the default decide: not those that are derived, that
are set by another one, or that are settled as a pair. -/
def Setting.isLayered (s : Setting) : Bool :=
  s ∉ [.version, .dataDir, .hlsRoot, .ffprobeBin, .metricsEnabled, .receiverUsername,
    .receiverPassword]

theorem Value.spelled_of_ne {s : Setting} (noMode : s ≠ .receiverAuthMode) (v : Value) :
    v.spelled s = v := by
  cases v with
  | text t => exact if_neg noMode
  | _ => rfl

theorem Text.lowerAscii_trim_lowerAscii_trim (cs : List Char) :
    lowerAscii (trim (lowerAscii (trim cs))) = lowerAscii (trim cs) := by
  rw [trim_lowerAscii, trim_trim, lowerAscii_lowerAscii]

/-- No table has a default. -/
theorem Setting.fallback_of_table (s : Setting) : s.kind ≠ .table ∨ s.fallback = .table [] := by
  cases s <;> first | exact Or.inr rfl | exact Or.inl (by decide)

namespace Loader

variable {l : Loader} {env : Environment} {now : String} {d : Disk} {loaded : Loaded}

/-- Whatever the registry, a leaf that is not spelled anew is the value of the first source that
supplies one, else the default that was applied. -/
theorem exists_highest_of_load (success : (l.load env now d).1.result = .ok loaded) :
    ∃ defaults f, base l.registry = .ok defaults ∧ l.Opens d f ∧ f.WellFormed ∧
      ∀ s : Setting, s.isLayered = true → s ≠ .receiverAuthMode →
        (s.kind ≠ .table ∨ defaults.leaf s = .table []) →
          loaded.config.leaf s = (Source.highest env.get? f s).getD (defaults.leaf s) := by
  obtain ⟨layered, presence, inputs, prepared, _, settling, _⟩ := exists_of_load success
  obtain ⟨merged, all, derived⟩ := exists_of_yields_prepare prepared
  obtain ⟨defaults, f, below, started, opened, formed, fromFile, fromVariables⟩ :=
    exists_of_yields_merge all
  obtain ⟨folded, looped, tidied⟩ := yields_bind.mp fromVariables
  rw [yields_pure] at tidied
  refine ⟨defaults, f, started, opened, formed, fun s ruled noMode bare => ?_⟩
  simp only [Setting.isLayered, List.mem_cons, List.not_mem_nil, or_false, not_or,
    decide_eq_true_eq] at ruled
  obtain ⟨noVersion, noData, noRoot, noProbe, noSwitch, noUsername, noPassword⟩ := ruled
  have rank : s.isRanked = true := by
    simp [Setting.isRanked, noVersion, noRoot, noSwitch, noUsername, noPassword]
  have others : s ∉ [.version, .hlsRoot, .receiverUsername, .receiverPassword,
      .receiverAuthMode] := by
    simp [noVersion, noRoot, noUsername, noPassword, noMode]
  calc loaded.config.leaf s
      = layered.config.leaf s := leaf_of_yields_settle settling others
    _ = merged.config.leaf s := leaf_of_derive derived noProbe noData
    _ = folded.config.leaf s := by
        rw [← tidied]
        exact VariableLayer.at_tidy (c := .own s) noMode
    _ = _ := Source.leaf_of_layers formed fromFile looped rank bare

/-- Each leaf is the value of the first source that supplies one, else the default. -/
theorem leaf_of_load (builtIn : l.registry = .builtIn)
    (success : (l.load env now d).1.result = .ok loaded) :
    ∃ f, l.Opens d f ∧
      (∀ k, k ≠ .own .version →
        (Value.fromKey env.get? f k = none ↔
          f.value k = none ∨ ∃ given, f.value k = some given ∧ given.isEmptyList = true)) ∧
        ∀ s : Setting, s.isLayered = true →
          loaded.config.leaf s =
            ((Source.highest env.get? f s).getD s.fallback).spelled s := by
  obtain ⟨layered, presence, inputs, prepared, _, settling, _⟩ := exists_of_load success
  obtain ⟨merged, all, derived⟩ := exists_of_yields_prepare prepared
  obtain ⟨defaults, f, below, started, opened, formed, fromFile, fromVariables⟩ :=
    exists_of_yields_merge all
  rw [builtIn, base_builtIn] at started
  cases started
  refine ⟨f, opened, fun k counted => File.fromKey_eq_none_iff formed fromFile counted, ?_⟩
  obtain ⟨folded, looped, tidied⟩ := yields_bind.mp fromVariables
  rw [yields_pure] at tidied
  intro s ruled
  simp only [Setting.isLayered, List.mem_cons, List.not_mem_nil, or_false, not_or,
    decide_eq_true_eq] at ruled
  obtain ⟨noVersion, noData, noRoot, noProbe, noSwitch, noUsername, noPassword⟩ := ruled
  have rank : s.isRanked = true := by
    simp [Setting.isRanked, noVersion, noRoot, noSwitch, noUsername, noPassword]
  have start : ({ config := Registry.builtIn.defaults : Layered }).config.leaf s = s.fallback :=
    Registry.leaf_defaults s
  have layers := Source.leaf_of_layers formed fromFile looped rank
    (by rw [start]; exact s.fallback_of_table)
  rw [start] at layers
  have behind : layered.config.leaf s = (VariableLayer.tidy folded).config.leaf s := by
    rw [leaf_of_derive derived noProbe noData, tidied]
  rw [← layers]
  -- Behind the layers only the mode is written anew; the other leaves are left alone.
  by_cases mode : s = .receiverAuthMode
  · subst mode
    obtain ⟨mode, read, shown⟩ := mode_of_yields_settle settling
    rw [VariableLayer.leaf_tidy] at behind
    have kept := Config.eq_of_leaf (v := _) behind
    rw [shown, CredentialMode.name_of_read read, kept, String.toList_ofList,
      lowerAscii_trim_lowerAscii_trim]
    rfl
  · have others : s ∉ [.version, .hlsRoot, .receiverUsername, .receiverPassword,
        .receiverAuthMode] := by
      simp [noVersion, noRoot, noUsername, noPassword, mode]
    rw [leaf_of_yields_settle settling others, behind, Value.spelled_of_ne mode]
    exact VariableLayer.at_tidy (c := .own s) mode

/-- A variable counts where it is set, the default where no source supplies a value. -/
theorem leaf_of_load_logLevel :
    ∃ loaded,
      (load { version := "t" } ⟨[("XG2G_HLS_ROOT", "/hls"), ("XG2G_LOG_LEVEL", "debug")]⟩ "now"
          {}).1.result = .ok loaded ∧
        loaded.config.leaf .logLevel = .text "debug" ∧ loaded.config.leaf .epgDays = .int 14 := by
  obtain ⟨loaded, success⟩ := exists_ok_of_toBool
    (load { version := "t" } ⟨[("XG2G_HLS_ROOT", "/hls"), ("XG2G_LOG_LEVEL", "debug")]⟩ "now"
      {}).1.result (by decide +kernel)
  obtain ⟨f, rfl, _, leaves⟩ := leaf_of_load rfl success
  refine ⟨loaded, success, ?_, ?_⟩
  · rw [leaves .logLevel rfl]
    decide +kernel
  · rw [leaves .epgDays rfl]
    decide +kernel

/-- The text of a variable does not always stand in the configuration as it is: the credential
mode is kept in its usual spelling. -/
theorem mode_not_verbatim :
    let env : Environment := ⟨[("XG2G_E2_AUTH_MODE", " NONE "), ("XG2G_HLS_ROOT", "/hls")]⟩
    Source.highest env.get? .empty .receiverAuthMode = some (.text " NONE ") ∧
      ((load { version := "t" } env "now" {}).1.result.toOption.map fun loaded =>
        loaded.config.leaf .receiverAuthMode) = some (.text "none") := by
  decide +kernel

end Loader

end LayeredConfig
