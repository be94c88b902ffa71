import LayeredConfig.Holder
import LayeredConfig.Proofs.Change
import LayeredConfig.Proofs.HlsRoot.Again
import LayeredConfig.Proofs.Load

/-!
# A reload with nothing changed

What a load derives, a second load on the disk it left derives again, so the two
give one configuration.  A reload then reports no change, with two exceptions:
a threshold that is no number differs from itself, and an older `v3-hls` that is
a file was renamed to an `hls` that the second load refuses.

Main statement: `Holder.reload_unchanged`.
-/

namespace LayeredConfig

open Reading Success

namespace Loader

variable {l : Loader} {env : Environment} {now later : String} {d d' : Disk}
  {values : String → Option String}

/-! ## What is read in front of the root of the live stream -/

/-- What a load reads in front of the search for the root is the same on both disks. -/
structure ReadsAlike (l : Loader) (d d' : Disk) : Prop where
  here : d'.workingDirectory = d.workingDirectory
  file : ∀ path, l.file = some path → d'.readText path = d.readText path

theorem mergeFile_congr (alike : l.ReadsAlike d d') (below : Layered) :
    l.mergeFile d' below = l.mergeFile d below := by
  unfold mergeFile
  cases named : l.file with
  | none => rfl
  | some path =>
      have same : openFile d' path = openFile d path := by
        unfold openFile readFile
        rw [alike.file path named]
      simp only [same]

theorem prepare_congr (alike : l.ReadsAlike d d') (listing : List String) :
    l.prepare d' listing = l.prepare d listing := by
  have derives : derive d' = derive d := by
    funext c
    unfold derive
    rw [alike.here]
  unfold prepare merge
  simp only [mergeFile_congr alike, derives]

/-- The data directory is given to the search as a path from the root. -/
theorem isRooted_of_yields_prepare {layered : Layered} {presence : Option Presence}
    {inputs : HlsRoot.Inputs} {listing : List String}
    (run : Yields values (l.prepare d listing) (layered, presence, inputs)) :
    Disk.isRooted inputs.dataDirectory = true := by
  obtain ⟨merged, _, derived⟩ := exists_of_yields_prepare run
  rw [inputs_of_yields_prepare run]
  exact DataDirectory.isRooted_absolute (directory_of_derive derived)

/-! ## The second load -/

/-- What a load on the disk behind another load comes to: the same configuration, unless the other
one renamed a file. -/
structure LoadsAgain (after : Disk) (loaded : Loaded) (again : Run Loaded × Disk) : Prop where
  disk : again.2 = after
  config : ∀ loaded', again.1.result = .ok loaded' → loaded'.config = loaded.config
  succeeds : (∃ loaded', again.1.result = .ok loaded') ↔ ¬loaded.root.MovedFile after

/-- A load that renamed nothing leaves the disk as it is. -/
theorem disk_of_idle_load {loaded : Loaded} (success : (l.load env now d).1.result = .ok loaded)
    (idle : loaded.root.migrated = false) : (l.load env now d).2 = d := by
  obtain ⟨_, _, inputs, prepared, resolved, _⟩ := exists_of_load success
  rw [disk_of_load prepared]
  exact HlsRoot.disk_of_resolve resolved idle

theorem ReadsAlike.refl (l : Loader) (d : Disk) : l.ReadsAlike d d :=
  ⟨rfl, fun _ _ => rfl⟩

/-- Behind the same front the second load settles the same configuration, if it finds a root. -/
theorem load_again {loaded : Loaded} (success : (l.load env now d).1.result = .ok loaded)
    (stays : loaded.root.migrated = true → l.ReadsAlike d (l.load env now d).2) (later : String) :
    LoadsAgain (l.load env now d).2 loaded (l.load env later (l.load env now d).2) := by
  obtain ⟨wasSettled, finished, _⟩ := result_load.mp success
  obtain ⟨layered, presence, inputs, prepared, resolved, settles⟩ := result_settled.mp wasSettled
  rw [asked_settled prepared resolved settles] at finished
  have solid := HlsRoot.isSolid_of_rooted d (isRooted_of_yields_prepare prepared)
  have again := HlsRoot.resolve_again solid resolved later
  have alike : l.ReadsAlike d (l.load env now d).2 := by
    cases migrated : loaded.root.migrated with
    | true => exact stays migrated
    | false =>
        rw [disk_of_idle_load success migrated]
        exact .refl l d
  rw [disk_of_load prepared] at alike ⊢
  generalize (HlsRoot.resolve d now inputs).2 = after at *
  have samePrepare := prepare_congr alike env.listing
  have prepared' : Yields env.get? (l.prepare after env.listing) (layered, presence, inputs) := by
    rw [samePrepare]
    exact prepared
  have settles' {root' : HlsRoot.Resolution} (same : root'.root = loaded.root.root) :
      Yields env.get? (l.settle (HlsRoot.resolve after later inputs).2 env.listing presence layered
        root'.root) loaded.config := by
    rw [again.disk, same]
    exact settles
  have found {loaded' : Loaded} (success' : (l.load env later after).1.result = .ok loaded') :
      (HlsRoot.resolve after later inputs).1.result = .ok loaded'.root ∧
        loaded'.config = loaded.config := by
    obtain ⟨wasSettled', _, _⟩ := result_load.mp success'
    obtain ⟨_, _, _, front, resolved', settled'⟩ := result_settled.mp wasSettled'
    cases front.unique prepared'
    exact ⟨resolved', settled'.unique (settles' (again.root _ resolved'))⟩
  refine ⟨?_, fun loaded' success' => (found success').2, ?_⟩
  · rw [disk_of_load prepared', again.disk]
  · rw [← again.succeeds]
    constructor
    · rintro ⟨loaded', success'⟩
      exact ⟨loaded'.root, (found success').1⟩
    · rintro ⟨root', resolved'⟩
      have same := again.root root' resolved'
      refine ⟨{ config := loaded.config, asked := _, unknown := loaded.unknown, root := root' },
        result_load.mpr ⟨?_, ?_, rfl⟩⟩
      · exact result_settled.mpr
          ⟨layered, presence, inputs, prepared', resolved', settles' same⟩
      · rw [asked_settled prepared' resolved' (settles' same), samePrepare, again.disk, same]
        exact finished

end Loader

namespace Holder

variable {h : Holder} {env : Environment} {now later : String} {d after : Disk}

theorem reload_eq_ok_iff {e : ReloadEvent} :
    (h.reload env now d).1.result = .ok e ↔
      ∃ loaded, (h.loader.load env now d).1.result = .ok loaded ∧
        e = h.eventOf loaded.config := by
  unfold reload settle
  cases loads : (h.loader.load env now d).1.result with
  | error f => simp [loads]
  | ok loaded => simp [loads, eq_comm]

theorem disk_of_reload (h : Holder) (env : Environment) (now : String) (d : Disk) :
    (h.reload env now d).2.2 = (h.loader.load env now d).2 := rfl

/-- A reload succeeds if the second load does. -/
theorem exists_reload_iff : (∃ e, (h.reload env now d).1.result = .ok e) ↔
    ∃ loaded, (h.loader.load env now d).1.result = .ok loaded := by
  simp only [reload_eq_ok_iff]
  exact ⟨fun ⟨_, loaded, success, _⟩ => ⟨loaded, success⟩,
    fun ⟨loaded, success⟩ => ⟨_, loaded, success, rfl⟩⟩

/-- The event of a second load compares the configuration with itself. -/
theorem event_of_loadsAgain {loaded : Loaded} {e : ReloadEvent}
    (again : Loader.LoadsAgain after loaded (h.loader.load env now d))
    (inForce : h.current.config = loaded.config) (result : (h.reload env now d).1.result = .ok e) :
    e.snapshot.config = loaded.config ∧
      e.changes = Summary.between h.loader.registry loaded.config loaded.config := by
  obtain ⟨loaded', success, rfl⟩ := reload_eq_ok_iff.mp result
  simp only [eventOf, again.config loaded' success, inForce, and_self]

/-- Behind a load that renamed nothing a reload compares the configuration with itself. -/
theorem exists_reload_of_idle {l : Loader} {loaded : Loaded}
    (success : (l.load env now d).1.result = .ok loaded) (idle : loaded.root.migrated = false)
    (later : String) :
    ∃ e, ((ofConfig l loaded.config).reload env later d).1.result = .ok e ∧
      e.changes = Summary.between l.registry loaded.config loaded.config := by
  have left := Loader.disk_of_idle_load success idle
  have again := Loader.load_again success (fun _ => left.symm ▸ .refl l d) later
  rw [left] at again
  obtain ⟨e, result⟩ := (exists_reload_iff (h := ofConfig l loaded.config)).mpr
    (again.succeeds.mpr fun moved => nomatch idle.symm.trans moved.1)
  exact ⟨e, result, (event_of_loadsAgain (h := ofConfig l loaded.config) again rfl result).2⟩

/-- A reload on the disk that the load behind the snapshot left gives the same configuration.  It
succeeds unless that load renamed a file, and then reports no change unless the threshold is no
number.  The renaming itself must not have moved the file of the configuration or the working
directory. -/
theorem reload_unchanged {loaded : Loaded}
    (success : (h.loader.load env now d).1.result = .ok loaded)
    (left : (h.loader.load env now d).2 = after) (inForce : h.current.config = loaded.config)
    (stays : loaded.root.migrated = true → h.loader.ReadsAlike d after) (later : String) :
    (h.reload env later after).2.2 = after ∧
      ((∃ e, (h.reload env later after).1.result = .ok e) ↔ ¬loaded.root.MovedFile after) ∧
      (∀ e, (h.reload env later after).1.result = .ok e →
        e.snapshot.config = loaded.config ∧
          (e.changes.isEmpty = true ∧ e.changes.restartRequired = false ↔
            loaded.config .engineCpuThresholdScale ≠ .nan)) ∧
      ((Summary.between h.loader.registry loaded.config loaded.config).isEmpty = true ↔
        loaded.config .engineCpuThresholdScale ≠ .nan) := by
  subst left
  have again := Loader.load_again success stays later
  have nothing := Summary.isEmpty_between_self h.loader.registry loaded.config
  have kept := (disk_of_reload h env later (h.loader.load env now d).2).trans again.disk
  refine ⟨kept, exists_reload_iff.trans again.succeeds, ?_, nothing⟩
  intro e result
  obtain ⟨same, changes⟩ := event_of_loadsAgain again inForce result
  refine ⟨same, ?_⟩
  rw [changes, ← nothing]
  exact and_iff_left_of_imp Summary.restartRequired_of_isEmpty

/-- The disk that holds one file in the root, and the text in it. -/
theorem readText_only (text : String) :
    Disk.readText { nodes := [(["c.yaml"], .file (.text text))] } "/c.yaml" = .ok text := by
  have admits : Disk.Admits "/c.yaml" := ⟨by decide, by decide, by decide⟩
  have steps : Disk.stepsOf "/c.yaml" = ["c.yaml"] := by decide
  exact Disk.readText_root admits (by decide) steps ⟨by decide, by decide, by decide⟩ rfl

/-- A threshold from the file that is a number: the reload has nothing to report. -/
theorem reload_unchanged_number :
    let loader : Loader := { version := "t", file := some "/c.yaml" }
    let env : Environment := ⟨[("XG2G_HLS_ROOT", "/hls")]⟩
    let text := "engine:\n  cpuThresholdScale: 1.25\n"
    let d : Disk := { nodes := [(["c.yaml"], .file (.text text))] }
    ∃ loaded, (loader.load env "now" d).1.result = .ok loaded ∧
      loaded.config .engineCpuThresholdScale ≠ .nan ∧
        ∃ e, ((ofConfig loader loaded.config).reload env "later" d).1.result = .ok e ∧
          e.changes.isEmpty = true ∧ e.changes.restartRequired = false := by
  intro loader env text d
  obtain ⟨loaded, success, facts⟩ := exists_ok_of_any (loader.load env "now" d).1.result
    (fun loaded => !loaded.root.migrated &&
      decide (loaded.config .engineCpuThresholdScale ≠ .nan))
    (by
      unfold Loader.load Loader.prepare Loader.merge Loader.mergeFile Loader.openFile
        Loader.readFile
      simp only [loader, env, text, d, readText_only]
      decide +kernel)
  rw [Bool.and_eq_true, Bool.not_eq_true', decide_eq_true_eq] at facts
  obtain ⟨idle, number⟩ := facts
  -- from here on the load counts only as one that succeeded
  clear_value loader env d
  obtain ⟨_, succeeds, reports, _⟩ := reload_unchanged (h := ofConfig loader loaded.config)
    success (Loader.disk_of_idle_load success idle) rfl (fun _ => .refl loader d) "later"
  obtain ⟨e, result⟩ := succeeds.mpr fun moved => nomatch idle.symm.trans moved.1
  exact ⟨loaded, success, number, e, result, (reports e result).2.mpr number⟩

/-- A file may set the threshold to what is no number; such a configuration differs from itself. -/
theorem exists_load_nan :
    let load := Loader.load { version := "t", file := some "/c.yaml" } ⟨[("XG2G_HLS_ROOT", "/hls")]⟩
      "now" { nodes := [(["c.yaml"], .file (.text "engine:\n  cpuThresholdScale: .nan\n"))] }
    ∃ loaded, load.1.result = .ok loaded ∧ loaded.root.migrated = false ∧
      let changes := Summary.between .builtIn loaded.config loaded.config
      changes.isEmpty = false ∧ changes.restartRequired = true := by
  obtain ⟨loaded, success, facts⟩ := exists_ok_of_any
    (Loader.load { version := "t", file := some "/c.yaml" } ⟨[("XG2G_HLS_ROOT", "/hls")]⟩ "now"
      { nodes := [(["c.yaml"], .file (.text "engine:\n  cpuThresholdScale: .nan\n"))] }).1.result
    (fun loaded => !loaded.root.migrated &&
      (!(Summary.between .builtIn loaded.config loaded.config).isEmpty &&
        (Summary.between .builtIn loaded.config loaded.config).restartRequired))
    (by
      unfold Loader.load Loader.prepare Loader.merge Loader.mergeFile Loader.openFile
        Loader.readFile
      simp only [readText_only]
      decide +kernel)
  rw [Bool.and_eq_true, Bool.and_eq_true, Bool.not_eq_true', Bool.not_eq_true'] at facts
  exact ⟨loaded, success, facts⟩

/-- A threshold that is no number is taken from the file, and differs from itself. -/
theorem reload_reports_nan :
    let loader : Loader := { version := "t", file := some "/c.yaml" }
    let env : Environment := ⟨[("XG2G_HLS_ROOT", "/hls")]⟩
    let text := "engine:\n  cpuThresholdScale: .nan\n"
    let d : Disk := { nodes := [(["c.yaml"], .file (.text text))] }
    ∃ loaded, (loader.load env "now" d).1.result = .ok loaded ∧
      (loader.load env "now" d).2 = d ∧
        ∃ e, ((ofConfig loader loaded.config).reload env "later" d).1.result = .ok e ∧
          e.changes.isEmpty = false ∧ e.changes.restartRequired = true := by
  obtain ⟨loaded, success, idle, filled, restart⟩ := exists_load_nan
  have left := Loader.disk_of_idle_load success idle
  obtain ⟨e, result, changes⟩ := exists_reload_of_idle success idle "later"
  refine ⟨loaded, success, left, e, result, ?_⟩
  rw [changes]
  exact ⟨filled, restart⟩

end Holder

end LayeredConfig
