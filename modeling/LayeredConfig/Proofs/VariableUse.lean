import LayeredConfig.Proofs.Load
import LayeredConfig.Proofs.Text.Cut

/-!
# The report on variables that nothing read

A load reports the variables of the program that no entry of the registry knows
and that none of its stages looked up.  The report comes behind the last look-up
and behind the last layer, so it sees every name that was asked for and the
strict mode as the loaded configuration has it, wherever that was set.

Main statement: `Loader.unknown_of_load`, what is reported, and that a strict
load never gets past a variable that looks as if it guarded something.
-/

namespace LayeredConfig

open Text Reading Success

theorem Registry.byVariable_isNone_iff {r : Registry} {name : String} :
    (r.byVariable name).isNone = true ↔ name ∉ r.variableNames := by
  rw [byVariable, Option.isNone_iff_eq_none, List.find?_eq_none, variableNames, List.mem_flatMap]
  simp only [List.contains_iff_mem, not_exists, not_and]

namespace VariableUse

/-! ## Which variables are reported -/

/-- A stretch of the name spells one of the parts that show a guard, letter case aside. -/
def Guards (name : String) : Prop :=
  ∃ part ∈ sensitiveParts, ∃ stretch, stretch <:+: name.toList ∧
    stretch.map Char.toUpper = part.toList.map Char.toUpper

theorem isSensitive_iff {name : String} : isSensitive name = true ↔ Guards name := by
  have capitals : ∀ part ∈ sensitiveParts, part.toList.map Char.toUpper = part.toList := by decide
  rw [isSensitive, List.any_eq_true, Guards]
  refine exists_congr fun part => and_congr_right fun member => ?_
  rw [contains_eq_true_iff, List.infix_map_iff, capitals part member]
  exact exists_congr fun stretch => and_congr_right fun _ => eq_comm

instance (name : String) : Decidable (Guards name) :=
  decidable_of_iff _ isSensitive_iff

/-- A variable of the program that nothing accounts for: no entry knows it under either name, it is
not read beside the settings, and it was not asked for. -/
structure Unaccounted (r : Registry) (asked : List String) (name : String) : Prop where
  ofProgram : "XG2G_".toList <+: name.toList
  unregistered : name ∉ r.variableNames
  notAuxiliary : name ∉ auxiliary
  unasked : name ∉ asked

variable {r : Registry} {listing asked names : List String} {strict : Bool} {name : String}

theorem isUnknown_iff : isUnknown r asked name = true ↔ Unaccounted r asked name := by
  rw [isUnknown, Bool.and_eq_true, Bool.and_eq_true, Bool.and_eq_true, Bool.not_eq_true',
    Bool.not_eq_true', ← Bool.not_eq_true, ← Bool.not_eq_true, List.contains_iff_mem,
    List.contains_iff_mem, Deprecation.isVariable, startsWith_eq_true_iff,
    Registry.byVariable_isNone_iff]
  constructor
  · rintro ⟨⟨⟨ofProgram, unasked⟩, unregistered⟩, notAuxiliary⟩
    exact ⟨ofProgram, unregistered, notAuxiliary, unasked⟩
  · rintro ⟨ofProgram, unregistered, notAuxiliary, unasked⟩
    exact ⟨⟨⟨ofProgram, unasked⟩, unregistered⟩, notAuxiliary⟩

instance : DecidablePred (Unaccounted r asked) :=
  fun _ => decidable_of_iff _ isUnknown_iff

/-! ## The audit -/

variable {values : String → Option String}

theorem yields_report :
    Yields values (report strict name) () ↔ (strict = true → ¬Guards name) := by
  unfold report
  split
  next refused =>
    rw [Bool.and_eq_true, isSensitive_iff] at refused
    exact iff_of_false yields_refuse fun harmless => harmless refused.1 refused.2
  next passed =>
    rw [Bool.and_eq_true, isSensitive_iff, not_and] at passed
    exact iff_of_true yields_caution passed

/-- The audit gives the sorted list of the variables that nothing accounts for, and it passes if in
strict mode none of them looks as if it guarded something. -/
theorem yields_audit :
    Yields values (audit r listing asked strict) names ↔
      (strict = true →
        ∀ name ∈ listing.map Deprecation.nameOf, Unaccounted r asked name → ¬Guards name) ∧
      ((listing.map Deprecation.nameOf).filter (Unaccounted r asked ·)).mergeSort (· ≤ ·) =
        names := by
  have same : (fun name => decide (Unaccounted r asked name)) = isUnknown r asked :=
    funext fun _ => Bool.eq_iff_iff.mpr (decide_eq_true_iff.trans isUnknown_iff.symm)
  have reports : Yields values
      (((listing.map Deprecation.nameOf).filter (isUnknown r asked)).forM (report strict)) () ↔
      (strict = true →
        ∀ name ∈ listing.map Deprecation.nameOf, Unaccounted r asked name → ¬Guards name) := by
    simp only [yields_forM, yields_report, List.mem_filter, isUnknown_iff]
    exact ⟨fun each on name member unaccounted => each name ⟨member, unaccounted⟩ on,
      fun each name found on => each on name found.1 found.2⟩
  rw [audit, yields_bind, same, ← reports]
  exact ⟨fun ⟨_, passed, sorted⟩ => ⟨passed, yields_pure.mp sorted⟩,
    fun ⟨passed, sorted⟩ => ⟨(), passed, yields_pure.mpr sorted⟩⟩

theorem asked_audit : ((audit r listing asked strict).run values).asked = [] := by
  refine asked_bind_eq_nil (asked_forM_eq_nil fun name _ => ?_) fun _ => asked_pure
  unfold report
  split <;> rfl

end VariableUse

namespace Loader

open VariableUse

variable {l : Loader} {env : Environment} {now : String} {d : Disk} {loaded : Loaded}

theorem asked_finish {listing asked : List String} {c : Config} {values : String → Option String} :
    ((l.finish listing asked c).run values).asked = [] := by
  unfold finish
  refine asked_bind_eq_nil ?_ fun _ => asked_bind_eq_nil ?_ fun _ => asked_pure
  · rw [asked_within, asked_audit]
  · rw [asked_within, asked_ofExcept]

/-- The report and the rules pass if nothing that looks like a guard is left unread in strict mode
and every rule holds. -/
theorem exists_yields_finish_iff {listing asked : List String} {c : Config}
    {values : String → Option String} :
    (∃ unknown, Yields values (l.finish listing asked c) unknown) ↔
      (c .configStrict = true → ∀ name ∈ listing.map Deprecation.nameOf,
        Unaccounted l.registry asked name → ¬Guards name) ∧
        Validation.check c = .ok () := by
  unfold finish
  constructor
  · rintro ⟨unknown, run⟩
    obtain ⟨_, audited, run⟩ := yields_bind.mp run
    obtain ⟨_, checked, _⟩ := yields_bind.mp run
    exact ⟨(yields_audit.mp (yields_within.mp audited)).1,
      yields_ofExcept.mp (yields_within.mp checked)⟩
  · rintro ⟨harmless, checked⟩
    have audited : Yields values (audit l.registry listing asked (c .configStrict)) _ :=
      yields_audit.mpr ⟨harmless, rfl⟩
    have ruled : Yields values (ofExcept (Validation.check c)) () := yields_ofExcept.mpr checked
    exact ⟨_, yields_bind.mpr ⟨_, yields_within.mpr audited,
      yields_bind.mpr ⟨(), yields_within.mpr ruled, yields_pure.mpr rfl⟩⟩⟩

/-- Nothing is looked up behind the settled configuration. -/
theorem asked_load (success : (l.load env now d).1.result = .ok loaded) :
    (l.load env now d).1.asked = (l.settled env now d).asked := by
  have closed : (l.closing env (l.settled env now d).asked (loaded.root, loaded.config)).asked =
      [] :=
    asked_bind_eq_nil asked_finish fun _ => asked_pure
  rw [load_eq_andThen, Run.asked_andThen (result_load.mp success).1, closed, List.append_nil]

/-- A load reports the variables that nothing accounts for, in order and as often as they are
listed: no entry of the registry knows them, they are not read beside the settings, and no stage of
the load looked them up.  If the loaded configuration is strict, none of them looks as if it guarded
something. -/
theorem unknown_of_load (success : (l.load env now d).1.result = .ok loaded) :
    let asked := (l.load env now d).1.asked
    let listed := env.listing.map Deprecation.nameOf
    loaded.unknown.Pairwise (· ≤ ·) ∧
      loaded.unknown.Perm (listed.filter (Unaccounted l.registry asked ·)) ∧
      (∀ name, name ∈ loaded.asked ↔ name ∈ asked) ∧
      (loaded.config .configStrict = true →
        ∀ name ∈ listed, Unaccounted l.registry asked name → ¬Guards name) := by
  intro asked listed
  obtain ⟨_, finished, shown⟩ := result_load.mp success
  have early : asked = (l.settled env now d).asked := asked_load success
  rw [← early] at finished shown
  obtain ⟨unknown, audited, rest⟩ := yields_bind.mp finished
  obtain ⟨_, _, same⟩ := yields_bind.mp rest
  cases yields_pure.mp same
  obtain ⟨harmless, sorted⟩ := yields_audit.mp (yields_within.mp audited)
  refine ⟨?_, ?_, fun name => ?_, harmless⟩
  · rw [← sorted]
    exact pairwise_mergeSort _
  · rw [← sorted]
    exact List.mergeSort_perm _ _
  · rw [shown, List.mem_mergeSort, List.mem_eraseDups]

/-- In strict mode a variable that is misspelled is reported; nothing in its name shows a guard. -/
theorem unknown_of_load_misspelled :
    let env : Environment := ⟨[("XG2G_HLS_ROOT", "/hls"), ("XG2G_MYSTERY", "1")]⟩
    ∃ loaded, (load { version := "t" } env "now" {}).1.result = .ok loaded ∧
      loaded.config .configStrict = true ∧ loaded.unknown = ["XG2G_MYSTERY"] ∧
        ¬Guards "XG2G_MYSTERY" := by
  intro env
  obtain ⟨loaded, success, strict⟩ := exists_ok_of_any
    (load { version := "t" } env "now" {}).1.result
    (fun loaded => loaded.config .configStrict) (by decide +kernel)
  obtain ⟨_, found, _, harmless⟩ := unknown_of_load success
  have only : (env.listing.map Deprecation.nameOf).filter
      (Unaccounted .builtIn (load { version := "t" } env "now" {}).1.asked ·) =
        ["XG2G_MYSTERY"] := by decide +kernel
  have member : "XG2G_MYSTERY" ∈ (env.listing.map Deprecation.nameOf).filter
      (Unaccounted .builtIn (load { version := "t" } env "now" {}).1.asked ·) := by
    rw [only]
    exact List.mem_singleton_self _
  obtain ⟨listed, unaccounted⟩ := List.mem_filter.mp member
  have reported : loaded.unknown = ["XG2G_MYSTERY"] := List.perm_singleton.mp (only ▸ found)
  exact ⟨loaded, success, strict, reported,
    harmless strict _ listed (of_decide_eq_true unaccounted)⟩

end Loader

end LayeredConfig
