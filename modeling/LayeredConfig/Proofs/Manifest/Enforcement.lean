import LayeredConfig.Proofs.Deprecation
import LayeredConfig.Proofs.Independence
import LayeredConfig.Proofs.Manifest.Merge

/-!
# Enforcing a manifest

Every entry of a manifest passes, warns or fails, and the first one that fails
ends the check.  So a check fails iff a key in the phase `fail` is in use, and
it warned once for every key in the phase `warn` that is in use in front of the
failure.

Main statements: `enforces_check`, `Loader.exists_enforced_of_load`.
-/

namespace LayeredConfig

open Reading Success
open Deprecation (InUse found reportedAs users)

namespace Manifest

variable {values : String → Option String} {listing : List String} {presence : Option Presence}
  {entries : List Deprecation} {e : Deprecation}

/-! ## One entry -/

/-- The entry stops a load. -/
def Stops (values : String → Option String) (listing : List String) (presence : Option Presence)
    (e : Deprecation) : Prop :=
  e.phase = .fail ∧ InUse values listing presence e.key

/-- The entry only warns. -/
def Warns (values : String → Option String) (listing : List String) (presence : Option Presence)
    (e : Deprecation) : Prop :=
  e.phase = .warn ∧ InUse values listing presence e.key

instance : Decidable (Stops values listing presence e) := inferInstanceAs (Decidable (_ ∧ _))

instance : Decidable (Warns values listing presence e) := inferInstanceAs (Decidable (_ ∧ _))

/-- What is said of the entries that warn. -/
def warnings (values : String → Option String) (listing : List String)
    (presence : Option Presence) (entries : List Deprecation) : List Warning :=
  (entries.filter (Warns values listing presence ·)).map fun e =>
    .deprecatedKey (reportedAs values listing presence e.key) e.replacement e.message

theorem warnings_append (before after : List Deprecation) :
    warnings values listing presence (before ++ after) =
      warnings values listing presence before ++ warnings values listing presence after := by
  rw [warnings, List.filter_append, List.map_append, warnings, warnings]

/-- The failure of an entry that stops a load. -/
def refusal (values : String → Option String) (listing : List String)
    (presence : Option Presence) (e : Deprecation) : Failure :=
  { cause := .deprecated (reportedAs values listing presence e.key) e.replacement e.message }

/-- An entry that does not stop the load passes, with its warning. -/
theorem run_checkEntry_passing (passes : ¬Stops values listing presence e) :
    Yields values (checkEntry listing presence e) () ∧
      ((checkEntry listing presence e).run values).warnings =
        warnings values listing presence [e] := by
  unfold Yields
  rw [checkEntry, run_bind, Deprecation.run_usage]
  unfold found warnings
  by_cases used : InUse values listing presence e.key
  · cases phase : e.phase with
    | fail => exact absurd ⟨phase, used⟩ passes
    | warn =>
        have warns : Warns values listing presence e := ⟨phase, used⟩
        simp only [if_pos used, Run.andThen]
        simp [warns, caution, run]
  · have silent : ¬Warns values listing presence e := fun warns => used warns.2
    simp only [if_neg used, Run.andThen]
    simp [silent, run, pure]

theorem run_checkEntry_stopping (stops : Stops values listing presence e) :
    ((checkEntry listing presence e).run values).result =
      .error (refusal values listing presence e) ∧
        ((checkEntry listing presence e).run values).warnings = [] := by
  obtain ⟨phase, used⟩ := stops
  rw [checkEntry, run_bind, Deprecation.run_usage]
  unfold found
  simp only [if_pos used, Run.andThen, phase]
  exact ⟨rfl, rfl⟩

/-! ## All entries -/

/-- Entries none of which stops the load pass, with all their warnings. -/
theorem run_forM_passing (pass : ∀ e ∈ entries, ¬Stops values listing presence e) :
    Yields values (entries.forM (checkEntry listing presence)) () ∧
      ((entries.forM (checkEntry listing presence)).run values).warnings =
        warnings values listing presence entries := by
  induction entries with
  | nil => exact ⟨rfl, rfl⟩
  | cons e rest ih =>
      obtain ⟨here, later⟩ := List.forall_mem_cons.mp pass
      obtain ⟨first, warnedFirst⟩ := run_checkEntry_passing here
      obtain ⟨passed, warned⟩ := ih later
      rw [List.forM_eq_forM] at passed warned ⊢
      rw [List.forM_cons]
      refine ⟨yields_bind.mpr ⟨(), first, passed⟩, ?_⟩
      rw [warnings_bind first, warnedFirst, warned]
      exact (warnings_append [e] rest).symm

/-- What holds of the run of a check of some entries. -/
structure Enforces (values : String → Option String) (listing : List String)
    (presence : Option Presence) (entries : List Deprecation) (run : Run Unit) : Prop where
  fails_iff : (∃ f, run.result = .error f) ↔ ∃ e ∈ entries, Stops values listing presence e
  /-- The failure is that of the first entry that stops the load, behind the warnings in front of
  it. -/
  failed : ∀ f, run.result = .error f → ∃ before e after, entries = before ++ e :: after ∧
    Stops values listing presence e ∧ (∀ b ∈ before, ¬Stops values listing presence b) ∧
      f = refusal values listing presence e ∧
        run.warnings = warnings values listing presence before
  passed : run.result = .ok () → run.warnings = warnings values listing presence entries

theorem run_forM_stopping {before : List Deprecation} (after : List Deprecation)
    (pass : ∀ b ∈ before, ¬Stops values listing presence b)
    (stops : Stops values listing presence e) :
    (((before ++ e :: after).forM (checkEntry listing presence)).run values).result =
        .error (refusal values listing presence e) ∧
      (((before ++ e :: after).forM (checkEntry listing presence)).run values).warnings =
        warnings values listing presence before := by
  obtain ⟨passed, warned⟩ := run_forM_passing pass
  obtain ⟨refused, silent⟩ := run_checkEntry_stopping stops
  rw [List.forM_eq_forM] at passed warned ⊢
  rw [List.forM_append, List.forM_cons, result_bind passed, warnings_bind passed, warned, run_bind]
  unfold Run.andThen
  rw [refused, silent]
  exact ⟨rfl, List.append_nil _⟩

/-- Entries are split at the first one that stops the load, if there is one. -/
theorem exists_first_stop (values : String → Option String) (listing : List String)
    (presence : Option Presence) (entries : List Deprecation) :
    (∀ e ∈ entries, ¬Stops values listing presence e) ∨
      ∃ before e after, entries = before ++ e :: after ∧
        (∀ b ∈ before, ¬Stops values listing presence b) ∧ Stops values listing presence e := by
  cases first : entries.find? (Stops values listing presence ·) with
  | none =>
      refine Or.inl fun e member stops => ?_
      exact List.find?_eq_none.mp first e member (decide_eq_true stops)
  | some e =>
      obtain ⟨stops, before, after, split, pass⟩ := List.find?_eq_some_iff_append.mp first
      exact Or.inr ⟨before, e, after, split, fun b member => by simpa using pass b member,
        of_decide_eq_true stops⟩

theorem enforces_check (m : Manifest) : Enforces values listing presence m.deprecations
    ((m.check listing presence).run values) := by
  unfold check
  obtain pass | ⟨before, e, after, split, pass, stops⟩ :=
    exists_first_stop values listing presence m.deprecations
  · obtain ⟨passed, warned⟩ := run_forM_passing pass
    refine ⟨⟨?_, ?_⟩, ?_, fun _ => warned⟩
    · rintro ⟨f, failed⟩
      exact nomatch passed.symm.trans failed
    · rintro ⟨e, member, stops⟩
      exact absurd stops (pass e member)
    · intro f failed
      exact nomatch passed.symm.trans failed
  · obtain ⟨refused, warned⟩ := run_forM_stopping after pass stops
    rw [split]
    refine ⟨⟨?_, fun _ => ⟨_, refused⟩⟩, ?_, ?_⟩
    · exact fun _ => ⟨e, List.mem_append_right _ List.mem_cons_self, stops⟩
    · intro f failed
      rw [refused] at failed
      exact ⟨before, e, after, rfl, stops, pass, (Except.error.inj failed).symm, warned⟩
    · intro passed
      exact nomatch refused.symm.trans passed

end Manifest

/-! ## A load -/

namespace Loader

variable {l : Loader} {d : Disk}

/-- The keys that stand in the file of a load. -/
def Scans (l : Loader) (d : Disk) (presence : Option Presence) : Prop :=
  match l.file with
  | none => presence = none
  | some path =>
      ∃ text p, readFile d path = .ok text ∧ Presence.ofText text = .ok p ∧ presence = some p

theorem scans_of_yields_mergeFile {values : String → Option String} {below merged : Layered}
    {presence : Option Presence} (run : Yields values (l.mergeFile d below) (merged, presence)) :
    l.Scans d presence := by
  unfold mergeFile at run
  unfold Scans
  cases named : l.file with
  | none =>
      rw [named] at run
      cases yields_pure.mp run
      rfl
  | some path =>
      rw [named] at run
      obtain ⟨⟨f, scanned⟩, opened, run⟩ := yields_bind.mp run
      obtain ⟨_, _, run⟩ := yields_bind.mp run
      obtain ⟨_, _, same⟩ := yields_bind.mp run
      cases yields_pure.mp same
      rw [yields_within, yields_ofExcept] at opened
      obtain ⟨text, read, rest⟩ := bind_eq_ok.mp opened
      obtain ⟨p, scan, rest⟩ := bind_eq_ok.mp rest
      obtain ⟨f', _, same⟩ := bind_eq_ok.mp rest
      cases pure_eq_ok.mp same
      exact ⟨text, scanned, read, mapError_eq_ok.mp scan, rfl⟩

theorem scans_of_yields_prepare {values : String → Option String} {listing : List String}
    {layered : Layered} {presence : Option Presence} {inputs : HlsRoot.Inputs}
    (run : Yields values (l.prepare d listing) (layered, presence, inputs)) :
    l.Scans d presence := by
  obtain ⟨merged, all, _⟩ := exists_merged_of_yields_prepare run
  obtain ⟨_, _, run⟩ := yields_bind.mp all
  obtain ⟨_, _, run⟩ := yields_bind.mp run
  obtain ⟨⟨below, presence'⟩, fromFile, run⟩ := yields_bind.mp run
  obtain ⟨_, _, run⟩ := yields_bind.mp run
  obtain ⟨_, _, same⟩ := yields_bind.mp run
  cases yields_pure.mp same
  exact scans_of_yields_mergeFile fromFile

/-- A load that succeeds enforced a manifest, and no key in the phase `fail` is in use. -/
theorem exists_enforced_of_load {env : Environment} {now : String} {loaded : Loaded}
    (success : (l.load env now d).1.result = .ok loaded) :
    ∃ path presence m, Yields env.get? l.manifestPath path ∧ l.Scans d presence ∧
      Manifest.load (l.load env now d).2 path = .ok m ∧
        ∀ e ∈ m.deprecations, ¬Manifest.Stops env.get? env.listing presence e := by
  obtain ⟨layered, presence, inputs, prepared, resolved, settles, _⟩ := exists_of_load success
  rw [disk_of_load prepared]
  obtain ⟨path, m, named, read, checked, _⟩ := exists_manifest_of_settle settles
  refine ⟨path, presence, m, named, scans_of_yields_prepare prepared, read,
    fun e member stops => ?_⟩
  obtain ⟨f, failed⟩ := (Manifest.enforces_check m).fails_iff.mpr ⟨e, member, stops⟩
  exact nomatch checked.symm.trans failed

end Loader

/-! ## The whole -/

namespace Manifest

theorem ofText_of_decode {origin text : String} {external : Manifest}
    (decoded : decode text = .ok external) (understood : external.version = understoodVersion) :
    ofText origin text = .ok (builtIn.merge external) := by
  unfold ofText
  rw [decoded]
  exact if_pos understood

theorem isMerge_builtIn (external : Manifest) : IsMerge builtIn.deprecations external.deprecations
    (builtIn.merge external).deprecations :=
  isMerge_foldl (by decide)

/-- How manifests are merged and enforced.  In the manifest that is in effect no key occurs twice,
the last entry of a key counts and the built-in ones come first.  A check fails iff a key in the
phase `fail` is in use; the failure is that of the first such entry, behind one warning for every
entry in the phase `warn` that is in use in front of it.  It names a variable or a key in use iff
the entry is no pattern of file keys, or is spelt like a key of the file; otherwise it repeats the
pattern.  No load succeeds while a key in the phase `fail` of its manifest is in use. -/
theorem merged_and_enforced (external m : Manifest) (values : String → Option String)
    (listing : List String) (presence : Option Presence) (l : Loader) (env : Environment)
    (now : String) (d : Disk) :
    (external.version = understoodVersion →
      IsMerge builtIn.deprecations external.deprecations
          (builtIn.merge external).deprecations ∧
        ∀ origin text, decode text = .ok external →
          ofText origin text = .ok (builtIn.merge external)) ∧
    Enforces values listing presence m.deprecations ((m.check listing presence).run values) ∧
    (∀ e ∈ m.deprecations, InUse values listing presence e.key →
      (Deprecation.isFilePattern e.key = false → (users values listing presence e.key).head? =
        some (reportedAs values listing presence e.key)) ∧
      (Deprecation.isFilePattern e.key = true →
        reportedAs values listing presence e.key = e.key) ∧
      (reportedAs values listing presence e.key ∈ users values listing presence e.key ↔
        Deprecation.isFilePattern e.key = false ∨
          e.key ∈ users values listing presence e.key)) ∧
    (∀ loaded, (l.load env now d).1.result = .ok loaded →
      ∃ path presence m, Yields env.get? l.manifestPath path ∧ l.Scans d presence ∧
        load (l.load env now d).2 path = .ok m ∧
          ∀ e ∈ m.deprecations, ¬Stops env.get? env.listing presence e) := by
  refine ⟨fun understood => ⟨isMerge_builtIn external, fun origin text decoded => ?_⟩,
    enforces_check m, fun e _ used => Deprecation.reportedAs_of_inUse used,
    fun loaded success => Loader.exists_enforced_of_load success⟩
  exact ofText_of_decode decoded understood

/-- A built-in entry is overridden and stops a check where its variable is set; a load without a
manifest of its own enforces the built-in one. -/
theorem merged_and_enforced_override :
    let stop : Deprecation := { key := "XG2G_STREAM_PORT", phase := .fail }
    let merged := builtIn.merge { version := 1, deprecations := [stop] }
    let values : String → Option String := fun name =>
      if name = "XG2G_STREAM_PORT" then some "8001" else none
    let env : Environment := ⟨[("XG2G_HLS_ROOT", "/hls")]⟩
    merged.deprecations.find? (·.key = "XG2G_STREAM_PORT") = some stop ∧
      (∃ f, ((merged.check [] none).run values).result = .error f ∧
        f.failureClass = .deprecated) ∧
      reportedAs values [] none "XG2G_STREAM_PORT" = "XG2G_STREAM_PORT" ∧
      ∃ loaded path presence m,
        (Loader.load { version := "t" } env "now" {}).1.result = .ok loaded ∧
          load (Loader.load { version := "t" } env "now" {}).2 path = .ok m ∧
            ∀ e ∈ m.deprecations, ¬Stops env.get? env.listing presence e := by
  intro stop merged values env
  have member : stop ∈ merged.deprecations := by decide
  obtain ⟨merging, enforcing, naming, loading⟩ := merged_and_enforced
    { version := 1, deprecations := [stop] } merged values [] none { version := "t" } env "now" {}
  refine ⟨?_, ?_, ?_, ?_⟩
  · rw [(merging rfl).1.last]
    decide
  · obtain ⟨f, failed⟩ := enforcing.fails_iff.mpr ⟨stop, member, by decide⟩
    obtain ⟨_, _, _, _, _, _, rfl, _⟩ := enforcing.failed f failed
    exact ⟨_, failed, rfl⟩
  · have first := (naming stop member (by decide)).1 (by decide)
    have only : users values [] none stop.key = ["XG2G_STREAM_PORT"] := by decide
    rw [only] at first
    exact (Option.some.inj first).symm
  · obtain ⟨loaded, success, _⟩ := Loader.exists_load_defaults env rfl
    obtain ⟨path, presence, m, _, _, read, passed⟩ := loading loaded success
    exact ⟨loaded, path, presence, m, success, read, passed⟩

/-- The failure repeats a pattern of file keys that nobody wrote, in place of the key in use. -/
theorem pattern_reported : ∃ p, Presence.ofText "epg:\n  source: bouquet\n" = .ok p ∧
    users (fun _ => none) [] (some p) "epg.source*" = ["epg.source"] ∧
    (((builtIn.merge { version := 1, deprecations := [{ key := "epg.source*", phase := .fail }] }
      ).check [] (some p)).run fun _ => none).result =
        .error { cause := .deprecated "epg.source*" "" "" } := by
  obtain ⟨p, scanned, facts⟩ := exists_ok_of_any (Presence.ofText "epg:\n  source: bouquet\n")
    (fun p => p = { paths := ["epg", "epg.source"] }) (by decide +kernel)
  obtain rfl := of_decide_eq_true facts
  exact ⟨_, scanned, by decide, by decide +kernel⟩

end Manifest

end LayeredConfig
