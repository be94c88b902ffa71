import LayeredConfig.Program
import LayeredConfig.Proofs.Change
import LayeredConfig.Proofs.Holder.Unchanged
import LayeredConfig.Proofs.Manifest.Named

/-!
# Comparisons beside checks

A comparison loads its two files under the same variables as a check of the same
line would, but not with the manifest that the line names.  So where a
comparison succeeds the checks of the two files may still fail, by that manifest
alone; if they pass they come to the configurations that were compared.

Main statement: `Program.checks_of_compare`.
-/

namespace LayeredConfig

def Comparison.loaderOf (r : Registry) (version path : String) : Loader :=
  { registry := r, file := some path, version }

namespace Comparison

variable {r : Registry} {version now path : String} {env : Environment} {d after last : Disk}
  {c : Comparison}

theorem outcome_eq_ok_iff {run : Run Loaded} {config : Config} :
    outcome path run = .ok config ↔ ∃ loaded, run.result = .ok loaded ∧ loaded.config = config := by
  unfold outcome
  cases run.result with
  | error f => simp
  | ok loaded => simp

theorem load_eq_ok_iff {config : Config} :
    load r version env now d path = (.ok config, after) ↔
      (∃ loaded, ((loaderOf r version path).load env now d).1.result = .ok loaded ∧
        loaded.config = config) ∧ ((loaderOf r version path).load env now d).2 = after := by
  rw [load, Prod.mk.injEq, outcome_eq_ok_iff]
  rfl

/-- A comparison that succeeds loaded both files, and compares what they came to. -/
theorem exists_loads_of_between {summary : Summary}
    (success : between r version env now d c = (.ok summary, last)) :
    ∃ old after new, load r version env now d c.old = (.ok old, after) ∧
      load r version env now after c.new = (.ok new, last) ∧
        summary = Summary.between r old new := by
  unfold between at success
  split at success
  next => cases success
  next old after first =>
    rcases second : load r version env now after c.new with ⟨f | new, last'⟩
    · rw [second] at success
      cases success
    · rw [second] at success
      cases success
      exact ⟨old, after, new, first, second, rfl⟩

/-- A file is compared with itself where its load leaves the disk alone. -/
theorem between_self {config : Config} (loads : load r version env now d path = (.ok config, d)) :
    between r version env now d ⟨path, path⟩ = (.ok (Summary.between r config config), d) := by
  unfold between
  simp only [loads]
  rfl

end Comparison

namespace Program

open Success
open Comparison (loaderOf exists_loads_of_between load_eq_ok_iff)

variable {line : CommandLine} {env : Environment} {now text : String} {d after start : Disk}
  {files : Comparison} {format : ListingFormat}

def checkLoader (line : CommandLine) (env : Environment) (d : Disk) (file : String) : Loader :=
  loader { line with config := some file, noFile := false } env d

/-- A check loads as a comparison does, but for the manifest that the line names. -/
theorem checkLoader_eq (line : CommandLine) (env : Environment) (d : Disk) (file : String) :
    checkLoader line env d file =
      match line.deprecations with
      | none => loaderOf .builtIn version file
      | some path => (loaderOf .builtIn version file).naming path := by
  unfold checkLoader loader path
  cases line.deprecations <;> rfl

/-- The manifest that the line names, if it names one, lets the load of a file pass. -/
def Passes (line : CommandLine) (env : Environment) (now : String) (d : Disk) (file : String)
    (c : Config) : Prop :=
  ∀ path, line.deprecations = some path → (loaderOf .builtIn version file).Admits env now d path c

/-- Two files are loaded one after the other, each by a loader of its own. -/
structure LoadsBoth (loaderFor : String → Loader) (env : Environment) (now : String) (d : Disk)
    (files : Comparison) (old new : Loaded) (last : Disk) : Prop where
  old : ((loaderFor files.old).load env now d).1.result = .ok old
  new : ((loaderFor files.new).load env now ((loaderFor files.old).load env now d).2).1.result =
    .ok new
  disk : ((loaderFor files.new).load env now ((loaderFor files.old).load env now d).2).2 = last

/-- A comparison that prints a summary opened the log, loaded the two files, and compared what they
came to. -/
theorem exists_loads_of_run (compares : line.command = some (.compare files format))
    (printed : run line env now d = (.printed text, after)) :
    ∃ start old new, openLog line d = .ok start ∧
      LoadsBoth (loaderOf .builtIn version) env now start files old new after ∧
        text = (Summary.between .builtIn old.config new.config).render format := by
  unfold run at printed
  cases opened : openLog line d with
  | error fault => simp [opened] at printed
  | ok start =>
      simp only [opened, compares, compare] at printed
      split at printed
      next summary last compared =>
        cases printed
        obtain ⟨_, _, _, first, second, rfl⟩ := exists_loads_of_between compared
        obtain ⟨⟨old, loadsOld, rfl⟩, rfl⟩ := load_eq_ok_iff.mp first
        obtain ⟨⟨new, loadsNew, rfl⟩, rfl⟩ := load_eq_ok_iff.mp second
        exact ⟨start, old, new, rfl, ⟨loadsOld, loadsNew, rfl⟩, rfl⟩
      next => cases printed

/-- A file that a comparison loaded is loaded by a check iff the manifest of the line lets it pass;
then the configuration is the same, and in any case the disk. -/
theorem load_checkLoader (line : CommandLine) (start : Disk) {file : String} {loaded : Loaded}
    (success : ((loaderOf .builtIn version file).load env now d).1.result = .ok loaded) :
    ((checkLoader line env start file).load env now d).2 =
        ((loaderOf .builtIn version file).load env now d).2 ∧
      ((∃ loaded', ((checkLoader line env start file).load env now d).1.result = .ok loaded') ↔
        Passes line env now d file loaded.config) ∧
      ∀ loaded', ((checkLoader line env start file).load env now d).1.result = .ok loaded' →
        loaded'.config = loaded.config := by
  rw [checkLoader_eq]
  unfold Passes
  cases line.deprecations with
  | none =>
      refine ⟨rfl, iff_of_true ⟨loaded, success⟩ (fun _ named => nomatch named), ?_⟩
      intro loaded' success'
      rw [Except.ok.inj (success.symm.trans success')]
  | some path =>
      obtain ⟨disk, succeeds, same⟩ := Loader.load_naming success path
      refine ⟨disk, succeeds.trans ?_, same⟩
      exact ⟨fun admits _ named => Option.some.inj named ▸ admits, fun admits => admits path rfl⟩

/-- What a comparison that prints a summary has in common with checks of its two files, made one
after the other on the same disk under the same line.  The comparison does not load the manifest
that the line names.  So the checks succeed iff that manifest, if there is one, lets both files
pass; if they succeed the summary is that of the configurations they come to, and the disk is the
same. -/
theorem checks_of_compare (compares : line.command = some (.compare files format))
    (printed : run line env now d = (.printed text, after)) :
    ∃ start old new, openLog line d = .ok start ∧
      LoadsBoth (loaderOf .builtIn version) env now start files old new after ∧
      text = (Summary.between .builtIn old.config new.config).render format ∧
      ((∃ old' new' last,
          LoadsBoth (checkLoader line env start) env now start files old' new' last) ↔
        Passes line env now start files.old old.config ∧
          Passes line env now ((loaderOf .builtIn version files.old).load env now start).2 files.new
            new.config) ∧
      ∀ old' new' last, LoadsBoth (checkLoader line env start) env now start files old' new' last →
        text = (Summary.between .builtIn old'.config new'.config).render format ∧ last = after := by
  obtain ⟨start, old, new, opened, loads, summary⟩ := exists_loads_of_run compares printed
  refine ⟨start, old, new, opened, loads, summary, ?_⟩
  obtain ⟨disk, passes, same⟩ := load_checkLoader line start loads.old
  obtain ⟨disk', passes', same'⟩ := load_checkLoader line start loads.new
  constructor
  · rw [← passes, ← passes']
    constructor
    · rintro ⟨old', new', _, checks⟩
      exact ⟨⟨old', checks.old⟩, new', disk ▸ checks.new⟩
    · rintro ⟨⟨old', found⟩, new', found'⟩
      exact ⟨old', new', _, found, disk.symm ▸ found', rfl⟩
  · rintro old' new' last checks
    rw [same old' checks.old, same' new' (disk ▸ checks.new), summary, ← loads.disk, ← disk',
      ← checks.disk, disk]
    exact ⟨rfl, rfl⟩

/-! ## A key that the manifest stops -/

/-- A line that compares a file with itself, with or without a manifest. -/
def sampleLine (manifest : Option String) : CommandLine :=
  { deprecations := manifest, log := "off"
    command := some (.compare ⟨"/a.yaml", "/a.yaml"⟩ .text) }

def sampleFile : String := "epg:\n  days: 3\n"

def sampleManifest : String := "version: 1\ndeprecations:\n  - key: epg.days\n    phase: fail\n"

def sampleDisk : Disk :=
  { nodes := [(["a.yaml"], .file (.text sampleFile)), (["m.yaml"], .file (.text sampleManifest))] }

/-- Variables that name the root of the live stream. -/
def sampleEnvironment : Environment := ⟨[("XG2G_HLS_ROOT", "/hls")]⟩

theorem readText_sample :
    sampleDisk.readText "/a.yaml" = .ok sampleFile ∧
      sampleDisk.readText "/m.yaml" = .ok sampleManifest := by
  have steps : Disk.stepsOf "/a.yaml" = ["a.yaml"] := by decide
  have steps' : Disk.stepsOf "/m.yaml" = ["m.yaml"] := by decide
  constructor
  · exact Disk.readText_root ⟨by decide, by decide, by decide⟩ (by decide) steps
      ⟨by decide, by decide, by decide⟩ rfl
  · exact Disk.readText_root ⟨by decide, by decide, by decide⟩ (by decide) steps'
      ⟨by decide, by decide, by decide⟩ rfl

/-- The file loads as a comparison loads it, and the load leaves the disk alone. -/
theorem exists_load_sample : ∃ loaded,
    ((loaderOf .builtIn version "/a.yaml").load sampleEnvironment "now" sampleDisk).1.result =
        .ok loaded ∧
      loaded.root.migrated = false ∧ loaded.config .engineCpuThresholdScale ≠ .nan := by
  obtain ⟨loaded, success, facts⟩ := exists_ok_of_any
    ((loaderOf .builtIn version "/a.yaml").load sampleEnvironment "now" sampleDisk).1.result
    (fun loaded => !loaded.root.migrated &&
      decide (loaded.config .engineCpuThresholdScale ≠ .nan))
    (by
      unfold Loader.load Loader.prepare Loader.merge Loader.mergeFile Loader.openFile
        Loader.readFile
      simp only [loaderOf, readText_sample.1]
      decide +kernel)
  rw [Bool.and_eq_true, Bool.not_eq_true', decide_eq_true_eq] at facts
  exact ⟨loaded, success, facts⟩

theorem run_sample (manifest : Option String) :
    run (sampleLine manifest) sampleEnvironment "now" sampleDisk =
      (.printed "No changes.\n", sampleDisk) := by
  obtain ⟨loaded, success, idle, number⟩ := exists_load_sample
  have left := Loader.disk_of_idle_load success idle
  have loads : Comparison.load .builtIn version sampleEnvironment "now" sampleDisk "/a.yaml" =
      (.ok loaded.config, sampleDisk) := load_eq_ok_iff.mpr ⟨⟨loaded, success, rfl⟩, left⟩
  have nothing := (Summary.isEmpty_between_self .builtIn loaded.config).mpr number
  have opened : openLog (sampleLine manifest) sampleDisk = .ok sampleDisk := rfl
  have compares : (sampleLine manifest).command =
    some (.compare ⟨"/a.yaml", "/a.yaml"⟩ .text) := rfl
  unfold run compare
  simp only [opened, compares, Comparison.between_self loads, Summary.render, Summary.text, nothing,
    if_true]

/-- Without a manifest the checks of the two files succeed too, and come to the same summary. -/
theorem checks_of_compare_sample :
    run (sampleLine none) sampleEnvironment "now" sampleDisk =
        (.printed "No changes.\n", sampleDisk) ∧
      ∃ start old new last, openLog (sampleLine none) sampleDisk = .ok start ∧
        LoadsBoth (checkLoader (sampleLine none) sampleEnvironment start) sampleEnvironment "now"
          start ⟨"/a.yaml", "/a.yaml"⟩ old new last ∧
        "No changes.\n" = (Summary.between .builtIn old.config new.config).render .text ∧
          last = sampleDisk := by
  have compares : (sampleLine none).command = some (.compare ⟨"/a.yaml", "/a.yaml"⟩ .text) := rfl
  obtain ⟨start, _, _, opened, _, _, passes, same⟩ := checks_of_compare compares (run_sample none)
  obtain ⟨old, new, last, checks⟩ := passes.mpr
    ⟨fun _ named => (nomatch named), fun _ named => (nomatch named)⟩
  obtain ⟨summary, disk⟩ := same old new last checks
  exact ⟨run_sample none, start, old, new, last, opened, checks, summary, disk⟩

def stoppedEntry : Deprecation := { key := "epg.days", phase := .fail }

/-- The manifest that the line names does not let the file pass. -/
theorem not_passes_sample (c : Config) :
    ¬Passes (sampleLine (some "/m.yaml")) sampleEnvironment "now" sampleDisk "/a.yaml" c := by
  intro passes
  obtain ⟨loaded, success, idle, _⟩ := exists_load_sample
  obtain ⟨presence, m, scans, read, pass, _⟩ := passes "/m.yaml" rfl
  rw [Loader.disk_of_idle_load success idle] at read
  have keys : (loaderOf .builtIn version "/a.yaml").Scans sampleDisk
      (some { paths := ["epg", "epg.days"] }) := by
    obtain ⟨p, scanned, same⟩ := exists_ok_of_any (Presence.ofText sampleFile)
      (fun p => p = { paths := ["epg", "epg.days"] }) (by decide +kernel)
    obtain rfl := of_decide_eq_true same
    have read : Loader.readFile sampleDisk "/a.yaml" = .ok sampleFile := by
      rw [Loader.readFile, readText_sample.1]
      rfl
    exact ⟨_, _, read, scanned, rfl⟩
  obtain rfl := Loader.Scans.unique keys scans
  obtain ⟨m', decoded, member⟩ := exists_ok_of_any
    (Manifest.ofText "/m.yaml" sampleManifest)
    (fun m => m.deprecations.contains stoppedEntry) (by decide +kernel)
  obtain rfl : m = m' := by
    rw [Manifest.load, readText_sample.2] at read
    exact Except.ok.inj (read.symm.trans decoded)
  exact pass _ (List.contains_iff_mem.mp member) (by decide)

/-- A comparison succeeds on a file that a check of the same line refuses. -/
theorem run_compare_unchecked :
    let line := sampleLine (some "/m.yaml")
    run line sampleEnvironment "now" sampleDisk = (.printed "No changes.\n", sampleDisk) ∧
      openLog line sampleDisk = .ok sampleDisk ∧
        ¬∃ loaded, ((checkLoader line sampleEnvironment sampleDisk "/a.yaml").load
          sampleEnvironment "now" sampleDisk).1.result = .ok loaded := by
  refine ⟨run_sample _, rfl, fun checked => ?_⟩
  obtain ⟨loaded, success, _⟩ := exists_load_sample
  exact not_passes_sample _ ((load_checkLoader _ _ success).2.1.mp checked)

end Program

end LayeredConfig
