import LayeredConfig.Proofs.HlsRoot.Migration

/-!
# What a search for the root of the live stream leaves alone

A root that is given by name is taken without a look at the disk.  A search in the
data directory changes the disk only if it renames the older directory.  All that is in
the directory moves along, a marker is put into it, and nothing else is touched.  But
if a link stands under the name of the marker, what it leads to is written instead,
wherever that is.

Main statement: `HlsRoot.resolve_frame`.
-/

namespace LayeredConfig.HlsRoot

open Success Disk

variable {d after moved : Disk} {now directory text : String} {inputs : Inputs}
variable {source target : Place}

/-! ## What may be different -/

/-- What stood at the source now stands at the target with all that is below, up to the marker.
Everything else stands where it stood, and the working directory is still the same. -/
structure Relocated (source target : Place) (text : String) (d after : Disk) : Prop where
  gone : ∀ rest, after.look (source ++ rest) = none
  moved : ∀ rest, rest ≠ [markerName] → after.look (target ++ rest) = d.look (source ++ rest)
  marker : after.look (target ++ [markerName]) = d.look (source ++ [markerName]) ∨
    after.look (target ++ [markerName]) = some (.file (.text text))
  other : ∀ q, ¬source <+: q → ¬target <+: q → after.look q = d.look q
  here : after.here = relocate source target d.here

/-- A link stood under the name of the marker and was followed, and the place it led to changed. -/
def MarkedElsewhere (source target : Place) (path text : String) (d after : Disk) : Prop :=
  let moved := d.move source target
  (∃ t, d.look (source ++ [markerName]) = some (.link t)) ∧
    ∃ q, moved.resolve true path = .ok q ∧ after = moved.put q (.file (.text text)) ∧
      after.look q ≠ moved.look q

/-- The renaming alone. -/
theorem relocated_move (beside : Beside source target) (d : Disk) (text : String) :
    Relocated source target text d (d.move source target) where
  gone rest := look_move_source d beside.notRoot beside.symm.notRoot (List.prefix_append _ _)
    (beside.symm.not_prefix_append rest)
  moved rest _ := look_move_target d beside.notRoot beside.symm.notRoot rest
  marker := Or.inl (look_move_target d beside.notRoot beside.symm.notRoot _)
  other _ out out' := look_move_other d beside.notRoot beside.symm.notRoot out out'
  here := here_move d source target

namespace Relocated

variable (relocated : Relocated source target text d moved)
include relocated

/-- Nothing but the marker is left open. -/
theorem look_eq (relocated' : Relocated source target text d after) {q : Place}
    (differ : q ≠ target ++ [markerName]) : after.look q = moved.look q := by
  by_cases inSource : source <+: q
  · obtain ⟨rest, rfl⟩ := inSource
    rw [relocated.gone, relocated'.gone]
  · by_cases inTarget : target <+: q
    · obtain ⟨rest, rfl⟩ := inTarget
      have inside : rest ≠ [markerName] := by
        rintro rfl
        exact differ rfl
      rw [relocated.moved rest inside, relocated'.moved rest inside]
    · rw [relocated.other q inSource inTarget, relocated'.other q inSource inTarget]

/-- The marker may be written. -/
theorem congr (beside : Beside source target) (here : after.here = moved.here)
    (same : ∀ q, q ≠ target ++ [markerName] → after.look q = moved.look q)
    (marker : after.look (target ++ [markerName]) = moved.look (target ++ [markerName]) ∨
      after.look (target ++ [markerName]) = some (.file (.text text))) :
    Relocated source target text d after where
  gone rest := by
    rw [same, relocated.gone]
    intro whole
    exact beside.symm.not_prefix_append rest (whole ▸ List.prefix_append _ _)
  moved rest inside := by
    rw [same, relocated.moved rest inside]
    intro whole
    exact inside (List.append_cancel_left whole)
  marker := marker.elim (fun same => same ▸ relocated.marker) Or.inr
  other q out out' := by
    rw [same, relocated.other q out out']
    rintro rfl
    exact out' (List.prefix_append _ _)
  here := here.trans relocated.here

end Relocated

/-- A write leaves all but the marker alone if and only if it is the marker that is written or if it
changes nothing. -/
theorem relocated_put_iff (beside : Beside source target) {q : Place} (notRoot : q ≠ []) :
    Relocated source target text d ((d.move source target).put q (.file (.text text))) ↔
      q = target ++ [markerName] ∨
        (d.move source target).look q = some (.file (.text text)) := by
  have relocated := relocated_move beside d text
  constructor
  · intro relocated'
    by_cases here : q = target ++ [markerName]
    · exact Or.inl here
    · refine Or.inr ?_
      rw [← relocated.look_eq relocated' here, look_put_same _ _ notRoot]
  · intro kept
    refine relocated.congr beside rfl (fun r differ => ?_) ?_
    · by_cases here : r = q
      · subst here
        rw [look_put_same _ _ notRoot, kept.resolve_left differ]
      · exact look_put_other _ _ here
    · by_cases here : target ++ [markerName] = q
      · rw [here]
        exact Or.inr (look_put_same _ _ notRoot)
      · exact Or.inl (look_put_other _ _ here)

/-- The renaming touches nothing else, unless a link stood under the name of the marker and led
elsewhere. -/
theorem Names.relocated_iff {front : List String} {p : Place} {n : Node}
    (names : Names d directory front p n)
    (solid : d.IsSolid (d.origin (newerPath directory)))
    (renames : Renames d (olderPath directory) (newerPath directory) now after) :
    let text := markerText (olderPath directory) now
    Relocated (p ++ [olderDirectoryName]) (p ++ [directoryName]) text d after ↔
      ¬MarkedElsewhere (p ++ [olderDirectoryName]) (p ++ [directoryName]) (markerPath directory)
        text d after := by
  intro text
  obtain ⟨moved, renamed, behind⟩ := renames
  obtain ⟨displaced, come⟩ := names.displaced_of_rename renamed
  obtain ⟨rfl, _⟩ := names.eq_move_of_rename renamed
  have beside := beside_names p
  have relocated := relocated_move beside d text
  rcases behind with ⟨_, rfl⟩ | written
  · refine iff_of_true relocated ?_
    rintro ⟨_, q, _, _, changed⟩
    exact changed rfl
  · obtain ⟨_, q, found, notRoot, noWay, rfl, inside⟩ :=
      names.exists_put_of_marker solid displaced come written
    -- the link under the name of the marker came along
    have link := look_move_target d beside.notRoot beside.symm.notRoot [markerName]
    rw [relocated_put_iff beside notRoot]
    constructor
    · rintro same ⟨⟨t, link'⟩, q', found', _, changed⟩
      obtain rfl := Except.ok.inj (found.symm.trans found')
      rcases same with rfl | same
      · rw [link, link'] at noWay
        exact noWay trivial
      · exact changed (by rw [look_put_same _ _ notRoot, same])
    · intro here
      by_cases kept : (d.move (p ++ [olderDirectoryName]) (p ++ [directoryName])).look q =
          some (.file (.text text))
      · exact Or.inr kept
      · refine Or.inl (inside fun t link' => here ⟨⟨t, link ▸ link'⟩, q, found, rfl, ?_⟩)
        rw [look_put_same _ _ notRoot]
        exact Ne.symm kept

/-! ## A root that is given by name -/

/-- The root that is given by name is taken cleaned, or refused, and the disk stays as it is. -/
structure Taken (d : Disk) (raw : String) (outcome : Outcome) : Prop where
  disk : outcome.2 = d
  refused : (∃ f, outcome.1.result = .error f) ↔ Path.clean raw = "." ∨ Path.clean raw = "/"
  root : ∀ found, outcome.1.result = .ok found →
    found.root = Path.clean raw ∧ found.migrated = false

theorem taken_of_explicit {raw : String} (explicit : inputs.explicit = some raw) (d : Disk)
    (now : String) : Taken d raw (resolve d now inputs) := by
  rcases cases_resolve inputs with ⟨raw', build, warnings, explicit', builds, search⟩ | ⟨blank, _⟩
  · obtain rfl := Option.some.inj (explicit.symm.trans explicit')
    simp only [search, usable]
    refine ⟨rfl, ?_, ?_⟩
    · split
      · next bad => exact iff_of_true ⟨_, rfl⟩ bad
      · next good =>
        refine iff_of_false ?_ good
        rintro ⟨_, fails⟩
        cases fails
    · intro found ok
      split at ok
      · cases ok
      · obtain rfl := Except.ok.inj ok
        exact builds _
  · cases blank.symm.trans explicit

/-! ## A search that fails -/

theorem exists_migrate_eq_ok (d : Disk) (now older target : String) :
    ∃ found, (migrate d now older target).1.result = .ok found := by
  unfold migrate
  split
  · exact ⟨_, rfl⟩
  · simp only
    split <;> exact ⟨_, rfl⟩

theorem disk_of_derive_error {f : Failure} (fails : (derive d now directory).1.result = .error f) :
    (derive d now directory).2 = d := by
  unfold derive at fails ⊢
  simp only at fails ⊢
  split at fails
  · cases fails
  · rfl
  · cases fails
  · cases fails
  · obtain ⟨found, ok⟩ := exists_migrate_eq_ok d now (olderPath directory) (newerPath directory)
    cases ok.symm.trans fails

/-- A search that fails leaves the disk as it is. -/
theorem disk_of_resolve_error {f : Failure} (fails : (resolve d now inputs).1.result = .error f) :
    (resolve d now inputs).2 = d := by
  rcases cases_resolve inputs with ⟨_, _, _, _, _, search⟩ | ⟨_, ⟨_, search⟩ | search⟩
  · rw [search]
    rfl
  · rw [search]
    rfl
  · rw [search] at fails ⊢
    exact disk_of_derive_error fails

/-! ## A search that succeeds -/

theorem renames_of_derive {found : Resolution}
    (ok : (derive d now directory).1.result = .ok found) (migrated : found.migrated = true) :
    found.root = newerPath directory ∧ Waits d directory ∧
      Renames d (olderPath directory) (newerPath directory) now (derive d now directory).2 := by
  rcases cases_derive ok with ⟨idle, _⟩ | ⟨rfl, waits, renames⟩
  · cases idle.migrated.symm.trans migrated
  · exact ⟨rfl, waits, renames⟩

/-- A search that renames takes no root by name, and renames what stands under the older name. -/
theorem renames_of_resolve {found : Resolution} (ok : (resolve d now inputs).1.result = .ok found)
    (migrated : found.migrated = true) :
    let directory := Path.clean inputs.dataDirectory
    inputs.explicit = none ∧ found.root = newerPath directory ∧ Waits d directory ∧
      Renames d (olderPath directory) (newerPath directory) now (resolve d now inputs).2 := by
  rcases cases_of_resolve ok with idle | ⟨blank, inside⟩
  · cases idle.migrated.symm.trans migrated
  · rw [inside] at ok ⊢
    exact ⟨blank, renames_of_derive ok migrated⟩

/-- A root that is given by name is taken, whatever stands on the disk.  The disk changes only if
the result says that the older directory was renamed.  That moves what stands under the older name
and touches nothing else, unless a link under the name of the marker leads elsewhere. -/
theorem resolve_frame (d : Disk) (now : String) (inputs : Inputs) :
    let outcome := resolve d now inputs
    let directory := Path.clean inputs.dataDirectory
    let text := markerText (olderPath directory) now
    (∀ raw, inputs.explicit = some raw → Taken d raw outcome) ∧
      ((∀ found, outcome.1.result = .ok found → found.migrated = false) → outcome.2 = d) ∧
      (d.IsSolid d.here → ∀ found, outcome.1.result = .ok found → found.migrated = true →
        (isBlank inputs.primary = true ∧ isBlank inputs.legacy = true ∧
          isBlank inputs.configured = true) ∧
        found.root = newerPath directory ∧
        ∃ source target n, Beside source target ∧
          d.resolve false (olderPath directory) = .ok source ∧
          d.resolve false (newerPath directory) = .ok target ∧
          d.look source = some n ∧ (∀ t, n ≠ .link t) ∧
          (Relocated source target text d outcome.2 ↔
            ¬MarkedElsewhere source target (markerPath directory) text d outcome.2)) := by
  intro outcome directory text
  refine ⟨fun raw explicit => taken_of_explicit explicit d now, fun still => ?_,
    fun solid found ok migrated => ?_⟩
  · cases result : outcome.1.result with
    | error f => exact disk_of_resolve_error result
    | ok found => exact disk_of_resolve result (still found result)
  · obtain ⟨blank, root, waits, renames⟩ := renames_of_resolve ok migrated
    obtain ⟨front, p, n, names⟩ := waits.exists_names
    exact ⟨explicit_eq_none_iff.mp blank, root, _, _, n, beside_names p, names.resolve_older,
      names.resolve_newer, names.there, names.noLink,
      names.relocated_iff (isSolid_of_here solid _) renames⟩

/-- An older directory is renamed with the file in it. -/
theorem resolve_frame_directory :
    let d : Disk :=
      { nodes := [(["data"], .directory), (["data", "v3-hls"], .directory),
          (["data", "v3-hls", "a.ts"], .file (.text "a"))], here := ["data"] }
    let inputs : Inputs := { dataDirectory := "/data" }
    let outcome := resolve d "now" inputs
    d.IsSolid d.here ∧
      ∃ found, outcome.1.result = .ok found ∧ found.migrated = true ∧
        Relocated ["data", "v3-hls"] ["data", "hls"] (markerText (olderPath "/data") "now") d
          outcome.2 := by
  intro d inputs outcome
  have solid : d.IsSolid d.here := (isSolid_root d).concat rfl
  have names : Names d "/data" ["data"] ["data"] .directory := names_of_data rfl rfl nofun rfl
  have ok : outcome.1.result = .ok { root := newerPath "/data", migrated := true } := by
    rw [show outcome = derive d "now" "/data" from resolve_data d "now"]
    exact names.migrates rfl "now"
  obtain ⟨_, _, frame⟩ := resolve_frame d "now" inputs
  obtain ⟨_, _, source, target, _, _, found, found', _, _, relocated⟩ := frame solid _ ok rfl
  rw [clean_data] at found found' relocated
  obtain rfl := Except.ok.inj (names.resolve_older.symm.trans found)
  obtain rfl := Except.ok.inj (names.resolve_newer.symm.trans found')
  refine ⟨solid, _, ok, rfl, relocated.mpr ?_⟩
  rintro ⟨⟨t, link⟩, _⟩
  cases link

/-- A link under the name of the marker leads to a file of that name outside, and that is
overwritten. -/
theorem resolve_overwrites :
    let d : Disk :=
      { nodes := [(["data"], .directory), (["data", "v3-hls"], .directory),
          (["data", "v3-hls", markerName], .link "/.xg2g_migrated_from_v3"),
          ([markerName], .file (.text "kept"))] }
    let inputs : Inputs := { dataDirectory := "/data" }
    let outcome := resolve d "now" inputs
    (∃ found, outcome.1.result = .ok found ∧ found.migrated = true) ∧
      outcome.2.look [markerName] ≠ d.look [markerName] := by
  intro d inputs outcome
  have names : Names d "/data" ["data"] ["data"] .directory := names_of_data rfl rfl nofun rfl
  have ok := names.migrates rfl "now"
  obtain ⟨_, _, moved, renamed, behind⟩ := renames_of_derive ok rfl
  obtain ⟨displaced, come⟩ := names.displaced_of_rename renamed
  have data : moved.look ["data"] = some .directory :=
    displaced.kept ["data"] (by decide) (by decide) trivial
  have link : moved.look (["data"] ++ [directoryName] ++ [markerName]) =
      some (.link "/.xg2g_migrated_from_v3") := displaced.moved [markerName] trivial
  have kept : moved.look [markerName] = some (.file (.text "kept")) := by
    obtain ⟨rfl, _⟩ := names.eq_move_of_rename renamed
    have beside := beside_names ["data"]
    exact look_move_other d beside.notRoot beside.symm.notRoot (by decide) (by decide)
  have reached : moved.resolve true (markerPath "/data") = .ok [markerName] := by
    have last : moved.walk true 39 [] [markerName] = .ok [markerName] :=
      walk_last isName_markerName 39 fun _ t there => by cases kept.symm.trans there
    rw [names.marker ⟨by decide, by decide, by decide⟩, origin_markerPath, reached_data data]
    refine (walk_through isName_directoryName maxLinks come).trans ?_
    refine (walk_linked isName_markerName 39 link (by decide)).trans ?_
    rw [if_pos (by decide), show stepsOf "/.xg2g_migrated_from_v3" = [markerName] by decide]
    exact last
  have written : moved.writeText (markerPath "/data") (markerText (olderPath "/data") "now") =
      .ok (moved.put [markerName] (.file (.text (markerText (olderPath "/data") "now")))) := by
    rw [writeText, reached]
    simp only [bind, Except.bind, kept]
    rfl
  have inside : outcome = derive d "now" "/data" := resolve_data d "now"
  rw [inside]
  refine ⟨⟨_, ok, rfl⟩, ?_⟩
  rcases behind with ⟨⟨fault, fails⟩, _⟩ | wrote
  · cases written.symm.trans fails
  · rw [← Except.ok.inj (written.symm.trans wrote), look_put_same _ _ (List.cons_ne_nil _ _)]
    decide

end LayeredConfig.HlsRoot
