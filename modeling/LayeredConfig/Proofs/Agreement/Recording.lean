import LayeredConfig.Proofs.Agreement.Text
import LayeredConfig.Proofs.Holder.Unchanged

/-!
# A flat variable does not override a recording key

A recording setting has a key in the file and a flat variable that ranks above it.
A load goes through only if the two agree, and what the check takes for the value
of the variable is what the layer of the variables makes of it.  So a value that
the file gives is kept: the same number, the same duration, or a text that is
compared as the same.

Main statement: `Loader.kept_of_load`.
-/

namespace LayeredConfig

open Text Reading Success Alias

variable {values : String → Option String} {f : File} {s : Setting}

/-- The leaf `leaf` of a setting of kind `k` is what the file gives: the same number, the duration
that its text stands for, or a text that is the same with references replaced and blanks dropped. -/
inductive Value.Keeps (values : String → Option String) : Kind → Value → Value → Prop where
  | int (n : Int) : Keeps values .int (.int n) (.int n)
  | duration {raw : String} {d : Duration} (read : Duration.read raw = .ok d) :
      Keeps values .duration (.text raw) (.duration d)
  | text {raw t : String} (same : normalText values t = normalText values raw) :
      Keeps values .text (.text raw) (.text t)

theorem Setting.facts_of_recording (flat : s ∈ recordingSettings) :
    (s.kind = .text ∨ s.kind = .duration ∨ s.kind = .int) ∧ s.row.primary = none ∧
      s.row.legacy = some (olderVariable s) ∧ s.olderCountsMillis = false ∧
        s.isExpanded = false ∧ s.isCommaList = false := by
  have each : ∀ s ∈ recordingSettings,
      (s.kind = .text ∨ s.kind = .duration ∨ s.kind = .int) ∧ s.row.primary = none ∧
        s.row.legacy = some (olderVariable s) ∧ s.olderCountsMillis = false ∧
          s.isExpanded = false ∧ s.isCommaList = false := by decide
  exact each s flat

theorem Setting.dropLast_of_recording (flat : s ∈ recordingSettings) :
    (FileKey.own s).steps.dropLast = [FileKey.recordingBlock] := by
  have each : ∀ s ∈ recordingSettings,
      (FileKey.own s).steps.dropLast = [FileKey.recordingBlock] := by decide
  exact each s flat

/-- Nothing but its sources decides about a recording setting. -/
theorem Setting.isLayered_of_recording (flat : s ∈ recordingSettings) :
    s.isRanked = true ∧ s ≠ .version ∧ s ≠ .ffprobeBin ∧ s ≠ .dataDir ∧ s ≠ .receiverAuthMode ∧
      s ∉ [.version, .hlsRoot, .receiverUsername, .receiverPassword, .receiverAuthMode] := by
  have each : ∀ s ∈ recordingSettings,
      s.isRanked = true ∧ s ≠ .version ∧ s ≠ .ffprobeBin ∧ s ≠ .dataDir ∧ s ≠ .receiverAuthMode ∧
        s ∉ [.version, .hlsRoot, .receiverUsername, .receiverPassword, .receiverAuthMode] := by
    decide
  exact each s flat

/-! ## The file and the variable -/

/-- The text of a recording key is merged as it stands, its references are not replaced. -/
theorem text_of_recordingKey (formed : f.WellFormed) (flat : s ∈ recordingSettings)
    (kind : s.kind = .text) {given v : Value} (present : f.value (.own s) = some given)
    (found : Value.fromKey values f (.own s) = some v) :
    ∃ raw, given = .text raw ∧ v = .text raw := by
  obtain ⟨_, _, _, _, notReplaced, apart⟩ := Setting.facts_of_recording flat
  obtain ⟨_, _, _, _, noMode, _⟩ := Setting.isLayered_of_recording flat
  obtain ⟨raw, stands, same⟩ := raw_of_fromKey formed found kind apart noMode
  rw [show (FileKey.own s).setting.isExpanded = false from notReplaced] at same
  exact ⟨raw, Option.some.inj (present.symm.trans stands), same⟩

/-- Under a recording key stands a text or a number, no list. -/
theorem not_isEmptyList (formed : f.WellFormed) (flat : s ∈ recordingSettings) {given : Value}
    (present : f.value (.own s) = some given) : given.isEmptyList = false := by
  obtain ⟨kinds, _, _, _, _, apart⟩ := Setting.facts_of_recording flat
  rcases (formed _ _ present).2.cases with ⟨_, raw, rfl⟩ | ⟨joined, _⟩ | ⟨_, _, fits⟩
  · rfl
  · rw [show (FileKey.own s).setting.isCommaList = false from apart] at joined
    contradiction
  · change given.IsOf s.kind at fits
    rcases kinds with kind | kind | kind
    all_goals
      rw [kind] at fits
      cases given <;> first | contradiction | rfl

theorem keeps_of_fromKey (formed : f.WellFormed) (flat : s ∈ recordingSettings) {given v : Value}
    (present : f.value (.own s) = some given)
    (found : Value.fromKey values f (.own s) = some v) : Value.Keeps values s.kind given v := by
  rcases (Setting.facts_of_recording flat).1 with kind | timed | kind
  · obtain ⟨raw, rfl, rfl⟩ := text_of_recordingKey formed flat kind present found
    rw [kind]
    exact .text rfl
  · obtain ⟨raw, d, stands, read, rfl⟩ := text_of_fromKey formed found timed
    cases present.symm.trans stands
    rw [timed]
    exact .duration read
  · have stands := value_of_fromKey formed found (Or.inl kind)
    obtain rfl : given = v := Option.some.inj (present.symm.trans stands)
    have fits := File.isOf_of_fromKey formed found
    rw [show (FileKey.own s).setting.kind = .int from kind] at fits
    rw [kind]
    cases given <;> first | contradiction | exact .int _

/-- A variable that agrees with the key keeps what the file gives. -/
theorem keeps_of_agreement (formed : f.WellFormed) (flat : s ∈ recordingSettings)
    {given v w : Value} (present : f.value (.own s) = some given)
    (found : Value.fromKey values f (.own s) = some v)
    (set : Value.fromOlderVariable values s = some w)
    (checked : Yields values (checkRecordingOf f s) ()) : Value.Keeps values s.kind given w := by
  obtain ⟨kinds, _, legacy, noMillis, _⟩ := Setting.facts_of_recording flat
  have fits := Value.isOf_of_fromOlderVariable set
  -- What the check compares is what the variable supplies.
  have seen : compared values s (olderVariable s) false = some w.trimmed := by
    rw [Value.fromOlderVariable, legacy, Option.bind_some] at set
    obtain ⟨raw, filled, read⟩ := Option.bind_eq_some_iff.mp set
    rw [Value.ofOlderVariable, if_neg (by simp [noMillis])] at read
    exact compared_of_ofVariable (by rcases kinds with kind | kind | kind <;> simp [kind]) filled
      read
  have same := yields_checkRecordingOf.mp checked given w.trimmed present seen
  rw [← present] at same
  have kept := keeps_of_fromKey formed flat present found
  by_cases kind : s.kind = .text
  · obtain ⟨raw, rfl, rfl⟩ := text_of_recordingKey formed flat kind present found
    rw [kind] at fits ⊢
    obtain ⟨t, rfl⟩ := fits.exists_text
    rw [present] at same
    have agree : normalText values raw = normalText values (String.ofList (trim t.toList)) :=
      eq_of_beq (yields_sameText.mp same)
    rw [normalText_trim] at agree
    exact .text agree.symm
  · have typed : s.kind = .duration ∨ s.kind = .int ∨ s.kind = .bool := by
      rcases kinds with text | timed | number
      · exact absurd text kind
      · exact Or.inl timed
      · exact Or.inr (Or.inl number)
    rw [Value.trimmed_eq typed fits] at same
    rwa [← eq_of_sameAsVariable formed found typed fits same]

/-! ## Behind a load -/

namespace Loader

variable {l : Loader} {env : Environment} {now : String} {d : Disk} {loaded : Loaded}

/-- A load reads a file that passed its checks and was merged, and a recording setting is what the
first of its sources supplies. -/
theorem exists_layers_of_load (success : (l.load env now d).1.result = .ok loaded) :
    ∃ defaults f below, l.Opens d f ∧ f.WellFormed ∧
      (f = .empty ∨ ∃ p, Yields env.get? (checkFile f p) ()) ∧
        Yields env.get? (f.merge { config := defaults }) below ∧
          ∀ s ∈ recordingSettings, loaded.config.leaf s =
            (Source.highest env.get? f s).getD (defaults.leaf s) := by
  obtain ⟨layered, presence, inputs, prepared, _, settling, _⟩ := exists_of_load success
  obtain ⟨merged, all, derived⟩ := exists_of_yields_prepare prepared
  obtain ⟨defaults, f, below, _, opened, formed, checked, fromFile, fromVariables⟩ :=
    exists_checked_of_yields_merge all
  refine ⟨defaults, f, below, opened, formed, checked, fromFile, fun s flat => ?_⟩
  obtain ⟨folded, looped, tidied⟩ := yields_bind.mp fromVariables
  rw [yields_pure] at tidied
  obtain ⟨rank, _, noProbe, noData, noMode, others⟩ := Setting.isLayered_of_recording flat
  have noTable : s.kind ≠ .table := by
    rcases (Setting.facts_of_recording flat).1 with kind | kind | kind <;> simp [kind]
  rw [leaf_of_yields_settle settling others, leaf_of_derive derived noProbe noData, ← tidied]
  exact (VariableLayer.at_tidy (c := .own s) noMode).trans
    (Source.leaf_of_layers formed fromFile looped rank (Or.inl noTable))

/-- What the file gives for a recording setting is kept, whatever the flat variables hold. -/
theorem kept_of_load (success : (l.load env now d).1.result = .ok loaded) :
    ∃ f, l.Opens d f ∧ ∀ s ∈ recordingSettings, ∀ given, f.value (.own s) = some given →
      Value.Keeps env.get? s.kind given (loaded.config.leaf s) := by
  obtain ⟨defaults, f, below, opened, formed, checked, fromFile, leaves⟩ :=
    exists_layers_of_load success
  refine ⟨f, opened, fun s flat given present => ?_⟩
  obtain ⟨_, primary, _⟩ := Setting.facts_of_recording flat
  obtain ⟨_, counted, _⟩ := Setting.isLayered_of_recording flat
  have passed : Yields env.get? (checkRecordingOf f s) () := by
    rcases checked with rfl | ⟨p, checked⟩
    · contradiction
    · obtain ⟨_, _, rest⟩ := yields_bind.mp checked
      obtain ⟨_, _, recording⟩ := yields_bind.mp rest
      have stands : f.hasBlock [FileKey.recordingBlock] = true :=
        opened.encloses.hasBlock (k := .own s) (by rw [present]; rfl)
          (Setting.dropLast_of_recording flat) nofun
      exact yields_checkRecording.mp recording stands s flat
  obtain ⟨v, found⟩ : ∃ v, Value.fromKey env.get? f (.own s) = some v := by
    refine Option.ne_none_iff_exists'.mp fun nothing => ?_
    rcases (File.fromKey_eq_none_iff formed fromFile
      fun same => counted (FileKey.own.inj same)).mp nothing with missing | ⟨list, stands, empty⟩
    · cases present.symm.trans missing
    · cases present.symm.trans stands
      rw [not_isEmptyList formed flat present] at empty
      contradiction
  have supplied : Source.highest env.get? f s =
      (Value.fromOlderVariable env.get? s).or (some v) := by
    rw [Source.highest_eq_or, Source.supply, Source.supply, Source.supply, Source.supply, found,
      Option.some_or, Value.fromVariable, primary, Option.bind_none, Option.none_or]
  rw [leaves s flat, supplied]
  cases set : Value.fromOlderVariable env.get? s with
  | none => exact keeps_of_fromKey formed flat present found
  | some w => exact keeps_of_agreement formed flat present found set passed

/-- A variable that holds no duration, a text with blanks around it, and a number that is spelled
differently. -/
theorem kept_of_load_recording :
    let loader : Loader := { version := "t", file := some "/c.yaml" }
    let env : Environment := ⟨[("XG2G_VOD_STALL_TIMEOUT", "soon"), ("XG2G_VOD_PROBE_SIZE", " 50M "),
      ("XG2G_VOD_MAX_CONCURRENT", "+3"), ("XG2G_HLS_ROOT", "/hls")]⟩
    let text := "vod:\n  stallTimeout: 1m\n  probeSize: 50M\n  maxConcurrent: 3\n"
    let d : Disk := { nodes := [(["c.yaml"], .file (.text text))] }
    ∃ loaded, (loader.load env "now" d).1.result = .ok loaded ∧
      Value.Keeps env.get? .duration (.text "1m") (loaded.config.leaf .vodStallTimeout) ∧
        Value.Keeps env.get? .text (.text "50M") (loaded.config.leaf .vodProbeSize) ∧
          Value.Keeps env.get? .int (.int 3) (loaded.config.leaf .vodMaxConcurrent) := by
  intro loader env text d
  obtain ⟨loaded, success⟩ := exists_ok_of_toBool (loader.load env "now" d).1.result
    (by
      unfold Loader.load prepare merge mergeFile openFile readFile
      simp only [loader, env, text, d, Holder.readText_only]
      decide +kernel)
  obtain ⟨⟨f, presence⟩, opened, facts⟩ := exists_ok_of_any (openFile d "/c.yaml")
    (fun given => decide (given.1.value (.own .vodStallTimeout) = some (.text "1m") ∧
      given.1.value (.own .vodProbeSize) = some (.text "50M") ∧
        given.1.value (.own .vodMaxConcurrent) = some (.int 3)))
    (by
      unfold openFile readFile
      simp only [text, d, Holder.readText_only]
      decide +kernel)
  obtain ⟨timeout, size, number⟩ := of_decide_eq_true facts
  obtain ⟨f', ⟨presence', opened'⟩, kept⟩ := kept_of_load success
  cases Except.ok.inj (opened'.symm.trans opened)
  exact ⟨loaded, success, kept .vodStallTimeout (by decide) _ timeout,
    kept .vodProbeSize (by decide) _ size, kept .vodMaxConcurrent (by decide) _ number⟩

end Loader

end LayeredConfig
