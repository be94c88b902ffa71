import LayeredConfig.Proofs.HlsRoot.Frame
import LayeredConfig.Proofs.Holder.Unchanged

/-!
# A load that fails

A load that fails leaves the disk as it is, unless it came to rename the older
directory first: the credentials, the deprecations, the unknown variables and the
rules are looked at behind the search for the root of the live stream, and what that
search renamed is not renamed back.  The configuration in force is kept then, but a
directory it names is gone if it was, or was in, what was renamed.

Main statements: `HlsRoot.disk_of_resolve_iff`, `Loader.disk_of_failed_load`.
-/

namespace LayeredConfig

open Reading Success Disk

/-! ## Where the renaming happens -/

namespace HlsRoot

variable {d after : Disk} {now directory : String} {inputs : Inputs} {source target q : Place}

/-- What stands under the older name is about to be renamed. -/
structure Moves (d : Disk) (directory : String) (source target : Place) : Prop where
  waits : Waits d directory
  source : d.resolve false (olderPath directory) = .ok source
  target : d.resolve false (newerPath directory) = .ok target
  allowed : ∃ moved, d.rename (olderPath directory) (newerPath directory) = .ok moved

theorem moves_of_renames (waits : Waits d directory)
    (renames : Renames d (olderPath directory) (newerPath directory) now after) :
    ∃ source target, Moves d directory source target := by
  obtain ⟨front, p, n, names⟩ := waits.exists_names
  obtain ⟨moved, renamed, _⟩ := renames
  exact ⟨_, _, waits, names.resolve_older, names.resolve_newer, moved, renamed⟩

/-- Something stands under the older name and nothing under the newer one. -/
theorem Names.moves {front : List String} {p : Place} {n : Node}
    (names : Names d directory front p n) (free : d.look (p ++ [directoryName]) = none) :
    Moves d directory (p ++ [olderDirectoryName]) (p ++ [directoryName]) := by
  obtain ⟨_, waits, moved, renamed, _⟩ := renames_of_derive (names.migrates free "") rfl
  exact ⟨waits, names.resolve_older, names.resolve_newer, moved, renamed⟩

namespace Moves

variable (moves : Moves d directory source target)
include moves

theorem exists_names : ∃ front p n, Names d directory front p n ∧
    source = p ++ [olderDirectoryName] ∧ target = p ++ [directoryName] := by
  obtain ⟨front, p, n, names⟩ := moves.waits.exists_names
  exact ⟨front, p, n, names, Except.ok.inj (moves.source.symm.trans names.resolve_older),
    Except.ok.inj (moves.target.symm.trans names.resolve_newer)⟩

/-- The search renames. -/
theorem result_derive (now : String) :
    (derive d now directory).1.result = .ok { root := newerPath directory, migrated := true } := by
  obtain ⟨⟨fault, nothing⟩, n, standing, noLink⟩ := moves.waits
  obtain ⟨moved, renamed⟩ := moves.allowed
  unfold derive
  simp only [nothing, standing]
  cases n with
  | link t => exact absurd rfl (noLink t)
  | directory | file _ =>
      unfold migrate
      simp only [renamed]
      split <;> rfl

theorem renames_derive (now : String) :
    Renames d (olderPath directory) (newerPath directory) now (derive d now directory).2 :=
  (renames_of_derive (moves.result_derive now) rfl).2.2

variable (solid : d.IsSolid (d.origin (newerPath directory)))
  (renames : Renames d (olderPath directory) (newerPath directory) now after)
include solid renames

/-- What stood at the source stands at the target, where it did not stand before. -/
theorem ne_of_renames : after ≠ d := by
  obtain ⟨front, p, n, names, rfl, rfl⟩ := moves.exists_names
  obtain ⟨_, come⟩ := names.displaced_of_renames solid renames
  rintro rfl
  exact names.noNode n names.noLink come

/-- A directory stays where it is unless it is, or is in, what is renamed. -/
theorem isSolid_iff (before : d.IsSolid q) : after.IsSolid q ↔ ¬source <+: q := by
  obtain ⟨front, p, n, names, rfl, rfl⟩ := moves.exists_names
  obtain ⟨displaced, _⟩ := names.displaced_of_renames solid renames
  constructor
  · intro behind below
    have way : IsWay (after.look (p ++ [olderDirectoryName])) := behind _ below ▸ trivial
    exact displaced.source way
  · intro out
    have outTarget : ¬(p ++ [directoryName]) <+: q :=
      fun below => names.noNode .directory nofun (before _ below)
    have stays := displaced.isSolid outTarget before
    rwa [relocate_other _ out] at stays

end Moves

/-! ## The whole search -/

theorem isBlank_of_isRooted {raw : String} (rooted : isRooted raw = true) :
    isBlank raw = false := by
  obtain ⟨rest, shape⟩ := Path.isRooted_iff.mp rooted
  rw [isBlank, shape]
  rfl

theorem resolve_eq_derive (unnamed : inputs.explicit = none)
    (rooted : isRooted inputs.dataDirectory = true) (d : Disk) (now : String) :
    resolve d now inputs = derive d now (Path.clean inputs.dataDirectory) := by
  obtain ⟨primary, legacy, configured⟩ := explicit_eq_none_iff.mp unnamed
  unfold resolve
  simp [primary, legacy, configured, isBlank_of_isRooted rooted]

/-- A search leaves the disk as it is unless it comes to rename. -/
theorem disk_of_resolve_iff (rooted : isRooted inputs.dataDirectory = true) :
    (resolve d now inputs).2 = d ↔
      ¬(inputs.explicit = none ∧
        ∃ source target, Moves d (Path.clean inputs.dataDirectory) source target) := by
  constructor
  · rintro kept ⟨unnamed, source, target, moves⟩
    rw [resolve_eq_derive unnamed rooted] at kept
    exact moves.ne_of_renames (isSolid_of_rooted d rooted) (moves.renames_derive now) kept
  · intro idle
    cases result : (resolve d now inputs).1.result with
    | error f => exact disk_of_resolve_error result
    | ok found =>
        cases migrated : found.migrated with
        | false => exact disk_of_resolve result migrated
        | true =>
            obtain ⟨unnamed, _, waits, renames⟩ := renames_of_resolve result migrated
            exact absurd ⟨unnamed, moves_of_renames waits renames⟩ idle

end HlsRoot

/-! ## Where a load fails -/

theorem Holder.result_reload_error {h : Holder} {env : Environment} {now : String} {d : Disk}
    {f : Failure} (failed : (h.loader.load env now d).1.result = .error f) :
    (h.reload env now d).1.result = .error f := by
  simp [reload, settle, failed]

namespace Loader

variable {l : Loader} {env : Environment} {now : String} {d : Disk} {f : Failure}

/-- The stages behind the search for the root of the live stream. -/
def lateStages : List Stage := [.credentials, .deprecations, .variableUse, .validation]

/-- The failure comes from one of the stages behind the search. -/
def IsLate (f : Failure) : Prop := ∃ stage ∈ lateStages, ∃ g : Failure, f = g.within stage

theorem isLate_of_settle {values : String → Option String} {listing : List String}
    {presence : Option Presence} {layered : Layered} {root : String}
    (failed : ((l.settle d listing presence layered root).run values).result = .error f) :
    IsLate f := by
  rcases error_of_bind failed with inCredentials | ⟨_, _, failed⟩
  · exact ⟨.credentials, by decide, exists_of_within inCredentials⟩
  · rcases error_of_bind failed with inPath | ⟨path, _, failed⟩
    · unfold manifestPath at inPath
      split at inPath
      · cases inPath
      · have named : Yields values (Variable.nonblank VariableUse.manifestVariable) _ :=
          Variable.yields_nonblank.mpr rfl
        cases named.symm.trans inPath
    · rcases error_of_bind failed with inManifest | ⟨_, _, failed⟩
      · exact ⟨.deprecations, by decide, exists_of_within inManifest⟩
      · cases failed

theorem isLate_of_finish {values : String → Option String} {listing asked : List String}
    {c : Config} (failed : ((l.finish listing asked c).run values).result = .error f) :
    IsLate f := by
  rcases error_of_bind failed with inAudit | ⟨unknown, _, failed⟩
  · exact ⟨.variableUse, by decide, exists_of_within inAudit⟩
  · rcases error_of_bind failed with inRules | ⟨_, _, failed⟩
    · exact ⟨.validation, by decide, exists_of_within inRules⟩
    · cases failed

/-- A load that finds a root can fail in one of the late stages only. -/
theorem isLate_of_load {layered : Layered} {presence : Option Presence} {inputs : HlsRoot.Inputs}
    {found : HlsRoot.Resolution}
    (prepared : Yields env.get? (l.prepare d env.listing) (layered, presence, inputs))
    (resolved : (HlsRoot.resolve d now inputs).1.result = .ok found)
    (failed : (l.load env now d).1.result = .error f) : IsLate f := by
  have front : (l.front env d).result = .ok (layered, presence, inputs) := prepared
  rw [load_eq_andThen] at failed
  rcases Run.error_of_andThen failed with unsettled | ⟨_, _, unfinished⟩
  · rcases Run.error_of_andThen unsettled with inFront | ⟨given, given', unsettled⟩
    · cases front.symm.trans inFront
    · obtain rfl := Except.ok.inj (front.symm.trans given')
      rcases Run.error_of_andThen unsettled with inSearch | ⟨root, _, unsettled⟩
      · have searched : (((HlsRoot.resolve d now inputs).1.within .hlsRoot).within .paths).result =
            .ok found := by
          rw [Run.result_within, Run.result_within, resolved]
        cases searched.symm.trans inSearch
      · rcases error_of_bind unsettled with inSettle | ⟨_, _, failed⟩
        · exact isLate_of_settle inSettle
        · cases failed
  · rcases error_of_bind unfinished with inFinish | ⟨_, _, failed⟩
    · exact isLate_of_finish inFinish
    · cases failed

/-! ## The disk behind a load -/

/-- The load comes to rename what stands under the older name in this data directory. -/
def Migrates (l : Loader) (env : Environment) (d : Disk) (directory : String)
    (source target : Place) : Prop :=
  ∃ layered presence inputs,
    Yields env.get? (l.prepare d env.listing) (layered, presence, inputs) ∧
      inputs.explicit = none ∧ Path.clean inputs.dataDirectory = directory ∧
        HlsRoot.Moves d directory source target

/-- A load leaves the disk as it is unless it comes to rename. -/
theorem disk_of_load_iff : (l.load env now d).2 = d ↔
    ¬∃ directory source target, l.Migrates env d directory source target := by
  cases front : ((l.prepare d env.listing).run env.get?).result with
  | error g =>
      have kept : (l.load env now d).2 = d := by
        unfold load
        simp only [front]
      refine iff_of_true kept ?_
      rintro ⟨_, _, _, _, _, _, prepared, _⟩
      cases front.symm.trans prepared
  | ok given =>
      obtain ⟨layered, presence, inputs⟩ := given
      have rooted := isRooted_of_yields_prepare front
      rw [disk_of_load front, HlsRoot.disk_of_resolve_iff rooted]
      apply not_congr
      constructor
      · rintro ⟨unnamed, source, target, moves⟩
        exact ⟨_, source, target, layered, presence, inputs, front, unnamed, rfl, moves⟩
      · rintro ⟨_, source, target, _, _, _, prepared, unnamed, rfl, moves⟩
        cases prepared.unique front
        exact ⟨unnamed, source, target, moves⟩

section Migrates

variable {directory : String} {source target q : Place}
variable (migrates : l.Migrates env d directory source target)
include migrates

theorem Migrates.moves : HlsRoot.Moves d directory source target := by
  obtain ⟨_, _, _, _, _, _, moves⟩ := migrates
  exact moves

/-- The paths to the two names start from directories. -/
theorem Migrates.isSolid : d.IsSolid (d.origin (HlsRoot.newerPath directory)) := by
  obtain ⟨_, _, _, prepared, _, rfl, _⟩ := migrates
  exact HlsRoot.isSolid_of_rooted d (isRooted_of_yields_prepare prepared)

theorem Migrates.renames : HlsRoot.Renames d (HlsRoot.olderPath directory)
    (HlsRoot.newerPath directory) now (l.load env now d).2 := by
  obtain ⟨_, _, inputs, prepared, unnamed, rfl, moves⟩ := migrates
  rw [disk_of_load prepared,
    HlsRoot.resolve_eq_derive unnamed (isRooted_of_yields_prepare prepared)]
  exact moves.renames_derive now

theorem Migrates.isLate (failed : (l.load env now d).1.result = .error f) : IsLate f := by
  obtain ⟨_, _, inputs, prepared, unnamed, rfl, moves⟩ := migrates
  have resolved := moves.result_derive now
  rw [← HlsRoot.resolve_eq_derive unnamed (isRooted_of_yields_prepare prepared)] at resolved
  exact isLate_of_load prepared resolved failed

/-- What was renamed stands under the newer name, and nothing else is touched but the marker. -/
theorem Migrates.relocated_iff :
    let text := HlsRoot.markerText (HlsRoot.olderPath directory) now
    HlsRoot.Relocated source target text d (l.load env now d).2 ↔
      ¬HlsRoot.MarkedElsewhere source target (HlsRoot.markerPath directory) text d
        (l.load env now d).2 := by
  obtain ⟨front, p, n, names, rfl, rfl⟩ := migrates.moves.exists_names
  exact names.relocated_iff migrates.isSolid migrates.renames

theorem Migrates.isSolid_iff (before : d.IsSolid q) :
    (l.load env now d).2.IsSolid q ↔ ¬source <+: q :=
  migrates.moves.isSolid_iff migrates.isSolid migrates.renames before

end Migrates

/-- A directory stays where it is unless the load renames it or one that it is in. -/
theorem isSolid_load_iff {q : Place} (before : d.IsSolid q) : (l.load env now d).2.IsSolid q ↔
    ∀ directory source target, l.Migrates env d directory source target → ¬source <+: q := by
  by_cases comes : ∃ directory source target, l.Migrates env d directory source target
  · obtain ⟨directory, source, target, migrates⟩ := comes
    constructor
    · intro behind directory' source' target' migrates'
      exact (migrates'.isSolid_iff before).mp behind
    · intro out
      exact (migrates.isSolid_iff before).mpr (out directory source target migrates)
  · rw [disk_of_load_iff.mpr comes]
    refine iff_of_true before fun directory source target migrates => ?_
    exact absurd ⟨directory, source, target, migrates⟩ comes

/-- A load that fails leaves the disk as it is unless it came to rename the older directory, and
then it failed in a stage behind that, and nothing but the renaming was done.  The holder keeps its
snapshot, and the directory that the snapshot names as the root of the live stream still stands
unless it was, or was in, what was renamed. -/
theorem disk_of_failed_load (failed : (l.load env now d).1.result = .error f) :
    let after := (l.load env now d).2
    (after = d ↔ ¬∃ directory source target, l.Migrates env d directory source target) ∧
      (∀ directory source target, l.Migrates env d directory source target →
        IsLate f ∧
          let text := HlsRoot.markerText (HlsRoot.olderPath directory) now
          (HlsRoot.Relocated source target text d after ↔
            ¬HlsRoot.MarkedElsewhere source target (HlsRoot.markerPath directory) text d after)) ∧
      ∀ h : Holder, h.loader = l →
        (h.reload env now d).1.result = .error f ∧ (h.reload env now d).2 = (h, after) ∧
          ∀ q, d.resolve true (h.current.config .hlsRoot) = .ok q → d.IsSolid q →
            (after.IsSolid q ↔ ∀ directory source target,
              l.Migrates env d directory source target → ¬source <+: q) := by
  refine ⟨disk_of_load_iff, fun directory source target migrates => ?_, ?_⟩
  · exact ⟨migrates.isLate failed, migrates.relocated_iff⟩
  · rintro h rfl
    refine ⟨Holder.result_reload_error failed,
      Prod.ext (Holder.reload_error failed) (h.disk_of_reload env now d), ?_⟩
    exact fun q _ before => isSolid_load_iff before

/-! ## A mode that cannot be read -/

/-- A load fails if the mode of the credentials cannot be read. -/
theorem exists_error_of_mode {layered : Layered} {presence : Option Presence}
    {inputs : HlsRoot.Inputs}
    (prepared : Yields env.get? (l.prepare d env.listing) (layered, presence, inputs))
    (unread : (CredentialMode.read (layered.config .receiverAuthMode)).toBool = false) :
    ∃ f, (l.load env now d).1.result = .error f := by
  cases result : (l.load env now d).1.result with
  | error f => exact ⟨f, rfl⟩
  | ok loaded =>
      obtain ⟨_, _, _, prepared', _, settles, _⟩ := exists_of_load result
      cases prepared'.unique prepared
      obtain ⟨mode, read, _⟩ := mode_of_yields_settle settles
      rw [read] at unread
      cases unread

/-- The root is given by name: a load that fails leaves the older directory where it is. -/
theorem disk_of_failed_load_named :
    let l : Loader := { version := "t" }
    let env : Environment := ⟨[("XG2G_E2_AUTH_MODE", "bogus"), ("XG2G_HLS_ROOT", "/hls")]⟩
    let d : Disk := { nodes := [(["data"], .directory), (["data", "v3-hls"], .directory)] }
    (∃ f, (l.load env "now" d).1.result = .error f) ∧ (l.load env "now" d).2 = d := by
  intro l env d
  obtain ⟨⟨layered, presence, inputs⟩, prepared, facts⟩ := exists_ok_of_any
    ((l.prepare d env.listing).run env.get?).result
    (fun given => !(CredentialMode.read (given.1.config .receiverAuthMode)).toBool &&
      decide (given.2.2.explicit = some "/hls"))
    (by decide +kernel)
  rw [Bool.and_eq_true, Bool.not_eq_true', decide_eq_true_eq] at facts
  obtain ⟨unread, named⟩ := facts
  obtain ⟨f, failed⟩ : ∃ f, (l.load env "now" d).1.result = .error f :=
    exists_error_of_mode prepared unread
  refine ⟨⟨f, failed⟩, (disk_of_failed_load failed).1.mpr ?_⟩
  rintro ⟨_, _, _, _, _, inputs', prepared', unnamed, _⟩
  cases prepared'.unique prepared
  cases named.symm.trans unnamed

/-- A reload that fails renames the directory that is in force. -/
theorem failed_reload_renames :
    let l : Loader := { version := "t" }
    let env : Environment := ⟨[("XG2G_DATA", "/data"), ("XG2G_E2_AUTH_MODE", "bogus")]⟩
    let d : Disk := { nodes := [(["data"], .directory), (["data", "v3-hls"], .directory)] }
    let h := Holder.ofConfig l (Config.empty.set .hlsRoot "/data/v3-hls")
    (∃ f, (h.reload env "now" d).1.result = .error f) ∧
      d.resolve true (h.current.config .hlsRoot) = .ok ["data", "v3-hls"] ∧
        d.IsSolid ["data", "v3-hls"] ∧ ¬(h.reload env "now" d).2.2.IsSolid ["data", "v3-hls"] := by
  intro l env d h
  obtain ⟨⟨layered, presence, inputs⟩, prepared, facts⟩ := exists_ok_of_any
    ((l.prepare d env.listing).run env.get?).result
    (fun given => !(CredentialMode.read (given.1.config .receiverAuthMode)).toBool &&
      (decide (given.2.2.explicit = none) && decide (given.2.2.dataDirectory = "/data")))
    (by decide +kernel)
  rw [Bool.and_eq_true, Bool.and_eq_true, Bool.not_eq_true', decide_eq_true_eq,
    decide_eq_true_eq] at facts
  obtain ⟨unread, unnamed, directory⟩ := facts
  have names : HlsRoot.Names d "/data" ["data"] ["data"] .directory :=
    HlsRoot.names_of_data rfl rfl nofun rfl
  have migrates : l.Migrates env d "/data" ["data", "v3-hls"] ["data", "hls"] := by
    refine ⟨layered, presence, inputs, prepared, unnamed, ?_, names.moves rfl⟩
    rw [directory, HlsRoot.clean_data]
  have solid : d.IsSolid (["data"] ++ ["v3-hls"]) := ((isSolid_root d).concat rfl).concat rfl
  refine ⟨?_, ?_, solid, ?_⟩
  · obtain ⟨f, failed⟩ : ∃ f, (h.loader.load env "now" d).1.result = .error f :=
      exists_error_of_mode prepared unread
    exact ⟨f, Holder.result_reload_error failed⟩
  · have inForce : h.current.config .hlsRoot = HlsRoot.olderPath "/data" := by decide +kernel
    have reached : d.approach maxLinks (d.origin (HlsRoot.olderPath "/data")) ["data"] =
        .ok (maxLinks, ["data"]) := by
      rw [HlsRoot.origin_olderPath, HlsRoot.reached_data rfl]
    rw [inForce]
    exact names.older.resolve_last HlsRoot.isName_olderDirectoryName reached
      fun _ t link => by cases link
  · rw [Holder.disk_of_reload]
    intro behind
    exact (migrates.isSolid_iff solid).mp behind (List.prefix_refl _)

end Loader

end LayeredConfig
