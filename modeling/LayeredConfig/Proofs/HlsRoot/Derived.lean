import LayeredConfig.Proofs.HlsRoot.Migration
import LayeredConfig.Proofs.Load
import LayeredConfig.Proofs.Path.Clean
import LayeredConfig.Proofs.Source

/-!
# The root of the live stream that nobody names

If nothing names the root of the live stream, a load takes it from the data
directory, whose path is cleaned once more on the way.  So the root lies in the
data directory that the configuration shows unless the path of that directory
has blanks at its end, which the second cleaning cuts off.

Main statement: `Loader.root_of_load`, with the counterexample
`Loader.root_beside_directory`.
-/

namespace LayeredConfig

open Text Reading Success HlsRoot

namespace HlsRoot

variable {d : Disk}

theorem isStep_directoryName : Path.IsStep directoryName :=
  ⟨by decide, by decide, by decide⟩

theorem isStep_olderDirectoryName : Path.IsStep olderDirectoryName :=
  ⟨by decide, by decide, by decide⟩

/-! ## Where nothing has either name -/

theorem look_of_resolve_inside {directory name : String} (isStep : Path.IsStep name)
    (isName : Disk.IsName name) (free : ∀ p, d.look (p ++ [name]) = none) {followLast : Bool}
    {place : Place} (found : d.resolve followLast (Path.inside directory name) = .ok place) :
    d.look place = none := by
  obtain ⟨front, steps⟩ := Path.exists_steps_inside directory
  have leads := Disk.leads_of_steps (Disk.admits_of_resolve found)
    (steps name isStep.filled isStep.free) (List.cons_ne_nil _ _)
  rw [leads] at found
  obtain ⟨⟨links, p⟩, _, last⟩ := bind_eq_ok.mp found
  have reached : d.walk followLast links p [name] = .ok (p ++ [name]) :=
    Disk.walk_last isName links fun _ t => by rw [free p]; exact nofun
  rw [← Except.ok.inj (reached.symm.trans last), free p]

/-- The newer path is taken as it stands where nothing has its name or the older one. -/
theorem derive_of_free (newer : ∀ p, d.look (p ++ [directoryName]) = none)
    (older : ∀ p, d.look (p ++ [olderDirectoryName]) = none) (now directory : String) :
    derive d now directory = settle d (.ok { root := newerPath directory }) [] := by
  unfold derive
  cases target : d.status (newerPath directory) with
  | ok n =>
      obtain ⟨place, found, there⟩ := bind_eq_ok.mp target
      rw [look_of_resolve_inside isStep_directoryName isName_directoryName newer found] at there
      cases there
  | error fault =>
      cases standing : d.linkStatus (olderPath directory) with
      | ok n =>
          obtain ⟨place, found, there⟩ := bind_eq_ok.mp standing
          rw [look_of_resolve_inside isStep_olderDirectoryName isName_olderDirectoryName older
            found] at there
          cases there
      | error fault' => simp only [target, standing]

theorem derive_empty (now directory : String) :
    derive {} now directory = settle {} (.ok { root := newerPath directory }) [] :=
  derive_of_free (fun p => by simp [Disk.look]) (fun p => by simp [Disk.look]) now directory

end HlsRoot

namespace Loader

variable {l : Loader} {env : Environment} {now : String} {d : Disk} {loaded : Loaded}

/-- No variable names the root of the live stream, and neither does the file or a default; blank
text names none. -/
structure NamesNoRoot (l : Loader) (env : Environment) (d : Disk) : Prop where
  newer : isBlank ((env.get? variableName).getD "") = true
  older : isBlank ((env.get? olderVariableName).getD "") = true
  inFile : ∀ f, l.Opens d f → ∀ raw,
    Value.fromKey env.get? f (.own .hlsRoot) = some (.text raw) → isBlank raw = true
  byDefault : isBlank (l.registry.defaults .hlsRoot) = true

/-! ## In front of the search -/

variable {layered merged : Layered} {presence : Option Presence} {inputs : Inputs}

/-- The layers name no root either. -/
theorem NamesNoRoot.isBlank_merged (noRoot : l.NamesNoRoot env d) {listing : List String}
    (run : Yields env.get? (l.merge d listing) (merged, presence)) :
    isBlank (merged.config .hlsRoot) = true := by
  obtain ⟨defaults, f, below, started, opened, formed, fromFile, fromVariables⟩ :=
    exists_of_yields_merge run
  have kept := VariableLayer.root_of_yields_merge fromVariables
  have single : Value.fromKey env.get? f (.older .hlsRoot) = none :=
    File.fromKey_older_eq_none formed (by decide)
  rw [File.leaf_of_yields_merge formed fromFile (by decide)
    (FileKey.cell_older (by decide) (by decide)), single, Option.or_none] at kept
  cases named : Value.fromKey env.get? f (.own .hlsRoot) with
  | none =>
      rw [named, Option.map_none, Option.getD_none, eq_defaults_of_base started] at kept
      rw [show merged.config .hlsRoot = l.registry.defaults .hlsRoot from Config.eq_of_leaf kept]
      exact noRoot.byDefault
  | some v =>
      have fits := File.isOf_of_fromKey formed named
      obtain ⟨raw, rfl⟩ := Value.IsOf.exists_text fits
      rw [named, Option.map_some, Option.getD_some, fits.onto_eq (by decide)] at kept
      rw [show merged.config .hlsRoot = raw from Config.eq_of_leaf kept]
      exact noRoot.inFile f opened raw named

/-! ## Behind it -/

/-- A search that is given no root takes one of the two paths in the cleaned data directory. -/
theorem root_of_resolve {found : Resolution} (noName : inputs.explicit = none)
    (ok : (resolve d now inputs).1.result = .ok found) :
    found.root = newerPath (Path.clean inputs.dataDirectory) ∨
      found.root = olderPath (Path.clean inputs.dataDirectory) := by
  rcases cases_resolve inputs with ⟨raw, _, _, named, _⟩ | ⟨_, ⟨f, search⟩ | search⟩
  · cases noName.symm.trans named
  · rw [search] at ok
    cases ok
  · rw [search] at ok
    rcases cases_derive ok with ⟨_, ⟨newer, _⟩ | ⟨older, _⟩⟩ | ⟨renamed, _⟩
    · exact Or.inl newer
    · exact Or.inr older
    · left
      rw [renamed]

/-- The data directory of a load is seen from the working directory, and the root that nobody names
lies in the cleaned one. -/
theorem exists_seen_of_load (success : (l.load env now d).1.result = .ok loaded)
    (noRoot : l.NamesNoRoot env d) :
    (∃ raw, loaded.config .dataDir = (DataDirectory.seen d.here raw).text) ∧
      (loaded.config .hlsRoot = newerPath (Path.clean (loaded.config .dataDir)) ∨
        loaded.config .hlsRoot = olderPath (Path.clean (loaded.config .dataDir))) := by
  obtain ⟨layered, presence, inputs, prepared, found, settles, _⟩ := exists_of_load success
  obtain ⟨merged, all, derived⟩ := exists_of_yields_prepare prepared
  have directory : loaded.config .dataDir = layered.config .dataDir :=
    Config.eq_of_leaf (leaf_of_yields_settle settles (by decide))
  have root : loaded.config .hlsRoot = loaded.root.root := root_of_yields_settle settles
  have noName : inputs.explicit = none := by
    have kept : layered.config .hlsRoot = merged.config .hlsRoot :=
      Config.eq_of_leaf (leaf_of_derive derived (by decide) (by decide))
    rw [explicit_eq_none_iff, inputs_of_yields_prepare prepared]
    exact ⟨noRoot.newer, noRoot.older, kept ▸ noRoot.isBlank_merged all⟩
  have given : inputs.dataDirectory = layered.config .dataDir := by
    rw [inputs_of_yields_prepare prepared]
  have inside := root_of_resolve noName found
  rw [given, ← directory, ← root] at inside
  refine ⟨⟨merged.config .dataDir, ?_⟩, inside⟩
  have seenFrom := directory_of_derive derived
  rw [← directory] at seenFrom
  exact DataDirectory.eq_seen_of_absolute seenFrom fun _ => Disk.eq_here_of_workingDirectory

/-- A path in the cleaned data directory is none in the data directory, unless the two are the
same. -/
theorem clean_eq_of_inside_eq {raw name name' : String} (names : ∀ step ∈ d.here, Path.IsStep step)
    (isStep : Path.IsStep name) (isStep' : Path.IsStep name')
    (same : Path.inside (Path.clean (DataDirectory.seen d.here raw).text) name =
      Path.inside (DataDirectory.seen d.here raw).text name') :
    Path.clean (DataDirectory.seen d.here raw).text = (DataDirectory.seen d.here raw).text := by
  have rooted := DataDirectory.rooted_seen d.here raw
  have cleanRooted := Path.isRooted_clean (Path.isRooted_text rooted)
  rw [Path.isRooted_clean_eq, ← Path.rooted_read, ← Path.rooted_fold] at cleanRooted
  exact Path.text_eq_of_inside_eq cleanRooted rooted (Path.isStep_fold_read _)
    (DataDirectory.isStep_seen names) isStep isStep' same

/-- If nothing names the root of the live stream, it lies in the data directory that is cleaned once
more.  That is the data directory of the configuration unless its path has blanks around it, since
a cleaned path is cleaned again without a change exactly if it has none. -/
theorem root_of_load (success : (l.load env now d).1.result = .ok loaded)
    (noRoot : l.NamesNoRoot env d) (names : ∀ step ∈ d.here, Path.IsStep step) :
    let directory := loaded.config .dataDir
    let root := loaded.config .hlsRoot
    (root = newerPath (Path.clean directory) ∨ root = olderPath (Path.clean directory)) ∧
      ((root = newerPath directory ∨ root = olderPath directory) ↔
        trim directory.toList = directory.toList) ∧
      ∀ raw, Path.clean (Path.clean raw) = Path.clean raw ↔
        trim (Path.clean raw).toList = (Path.clean raw).toList := by
  intro directory root
  obtain ⟨⟨raw, seen⟩, inside⟩ := exists_seen_of_load success noRoot
  have again : Path.clean directory = directory ↔ trim directory.toList = directory.toList := by
    rw [show directory = _ from seen]
    exact Path.clean_text_fold_iff (DataDirectory.isStep_under names)
  refine ⟨inside, ?_, fun raw => Path.clean_text_fold_iff fun _ => Path.isStep_of_mem_read⟩
  rw [← again]
  constructor
  · intro beneath
    obtain ⟨name, isStep, cleaned⟩ : ∃ name, Path.IsStep name ∧
        root = Path.inside (Path.clean directory) name :=
      inside.elim (⟨_, isStep_directoryName, ·⟩) (⟨_, isStep_olderDirectoryName, ·⟩)
    obtain ⟨name', isStep', shown⟩ : ∃ name, Path.IsStep name ∧
        root = Path.inside directory name :=
      beneath.elim (⟨_, isStep_directoryName, ·⟩) (⟨_, isStep_olderDirectoryName, ·⟩)
    have same := cleaned.symm.trans shown
    rw [show directory = _ from seen] at same ⊢
    exact clean_eq_of_inside_eq names isStep isStep' same
  · intro same
    rwa [show Path.clean directory = directory from same] at inside

/-- The built-in defaults name no root, and neither does a variable for the data directory. -/
theorem namesNoRoot_directory (raw : String) (d : Disk) :
    NamesNoRoot { version := "t" } ⟨[("XG2G_DATA", raw)]⟩ d := by
  refine ⟨rfl, rfl, ?_, by decide +kernel⟩
  rintro f rfl raw' named
  cases named

/-- The root lies in a data directory without blanks around it. -/
theorem root_of_load_directory :
    ∃ loaded, (load { version := "t" } ⟨[("XG2G_DATA", "/data")]⟩ "now" {}).1.result = .ok loaded ∧
      (loaded.config .hlsRoot = newerPath "/data" ∨
        loaded.config .hlsRoot = olderPath "/data") := by
  obtain ⟨loaded, success, directory⟩ := exists_ok_of_any
    (load { version := "t" } ⟨[("XG2G_DATA", "/data")]⟩ "now" {}).1.result
    (fun loaded => loaded.config .dataDir = "/data")
    (by
      unfold load resolve
      simp only [derive_empty]
      decide +kernel)
  obtain ⟨_, inside, _⟩ := root_of_load success (namesNoRoot_directory "/data" {}) nofun
  rw [of_decide_eq_true directory] at inside
  exact ⟨loaded, success, inside.mpr (by decide)⟩

/-- The root lies beside a data directory with a blank at its end, whose path is not cleaned again
without a change. -/
theorem root_beside_directory :
    NamesNoRoot { version := "t" } ⟨[("XG2G_DATA", "/data /")]⟩ {} ∧
      ((load { version := "t" } ⟨[("XG2G_DATA", "/data /")]⟩ "now" {}).1.result.toOption.map
        fun loaded => (loaded.config .dataDir, loaded.config .hlsRoot)) =
          some ("/data ", "/data/hls") ∧
      Path.clean (Path.clean "/data /") ≠ Path.clean "/data /" := by
  refine ⟨namesNoRoot_directory _ _, ?_, by decide⟩
  unfold load resolve
  simp only [derive_empty]
  decide +kernel

end Loader

end LayeredConfig
