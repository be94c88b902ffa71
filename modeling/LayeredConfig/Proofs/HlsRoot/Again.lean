import LayeredConfig.Proofs.HlsRoot.Migration

/-!
# A second search for the root of the live stream

A search that renamed nothing finds the same root again.  One that renamed the
older directory finds it under its new name, and if the data directory was named
by a way through the older one, it finds nothing and names the new one as well.
But an older `v3-hls` that is a file is renamed too, and the next search refuses
it under the new name.

Main statements: `HlsRoot.resolve_again`, `HlsRoot.resolve_settles`.
-/

namespace LayeredConfig.HlsRoot

open Success Disk

variable {d after : Disk} {now directory : String} {found : Resolution} {inputs : Inputs}

/-! ## The second search -/

/-- What was renamed is a file. -/
def Resolution.MovedFile (found : Resolution) (after : Disk) : Prop :=
  found.migrated = true ∧ ∃ content, after.status found.root = .ok (.file content)

/-- What a search on the disk behind another one finds: the same root, and nothing to rename.  It
fails if the other one renamed a file. -/
structure FindsAgain (after : Disk) (found : Resolution) (again : Outcome) : Prop where
  disk : again.2 = after
  root : ∀ found', again.1.result = .ok found' → found'.root = found.root
  migrated : ∀ found', again.1.result = .ok found' → found'.migrated = false
  succeeds : (∃ found', again.1.result = .ok found') ↔ ¬found.MovedFile after

theorem not_movedFile (idle : found.migrated = false) : ¬found.MovedFile after :=
  fun moved => nomatch idle.symm.trans moved.1

/-- A search that renames nothing finds the same again. -/
theorem Idle.again {search : String → Outcome} (idle : Idle d found search) (later : String) :
    FindsAgain d found (search later) where
  disk := idle.disk later
  root found' result := by
    obtain rfl := Except.ok.inj ((idle.result later).symm.trans result)
    rfl
  migrated found' result := by
    obtain rfl := Except.ok.inj ((idle.result later).symm.trans result)
    exact idle.migrated
  succeeds := ⟨fun _ => not_movedFile idle.migrated, fun _ => ⟨_, idle.result later⟩⟩

/-- The newer path is the root again if no file stands there. -/
theorem findsAgain_newer {root : String} {warnings : List Warning}
    (noFile : ∀ content, after.status root ≠ .ok (.file content)) :
    FindsAgain after { root, migrated := true } (settle after (.ok { root }) warnings) where
  disk := rfl
  root found' result := by
    obtain rfl := Except.ok.inj result
    rfl
  migrated found' result := by
    obtain rfl := Except.ok.inj result
    rfl
  succeeds := ⟨fun _ moved => moved.2.elim noFile, fun _ => ⟨_, rfl⟩⟩

theorem derive_again (solid : d.IsSolid (d.origin (newerPath directory)))
    (ok : (derive d now directory).1.result = .ok found) (later : String) :
    FindsAgain (derive d now directory).2 found
      (derive (derive d now directory).2 later directory) := by
  rcases cases_derive ok with ⟨idle, _⟩ | ⟨rfl, waits, renames⟩
  · rw [idle.disk now]
    exact idle.again later
  · obtain ⟨front, p, n, names⟩ := waits.exists_names
    have behind := names.cases_behind solid renames
    generalize (derive d now directory).2 = after at behind ⊢
    rcases behind with ⟨there, _⟩ | ⟨fault, blocked, _, blocked'⟩
    · cases n with
      | directory =>
          unfold derive
          simp only [there]
          refine findsAgain_newer fun content file => ?_
          cases there.symm.trans file
      | file content =>
          unfold derive
          simp only [there]
          exact ⟨rfl, nofun, nofun, ⟨nofun, fun noFile => absurd ⟨rfl, content, there⟩ noFile⟩⟩
      | link t => exact absurd rfl (names.noLink t)
    · unfold derive
      simp only [blocked, blocked']
      refine findsAgain_newer fun content file => ?_
      cases blocked.symm.trans file

/-- A search on the disk behind a search leaves it as it is and finds the same root, unless a file
was renamed: then it finds none. -/
theorem resolve_again
    (solid : d.IsSolid (d.origin (newerPath (Path.clean inputs.dataDirectory))))
    (ok : (resolve d now inputs).1.result = .ok found) (later : String) :
    FindsAgain (resolve d now inputs).2 found
      (resolve (resolve d now inputs).2 later inputs) := by
  rcases cases_of_resolve ok with idle | ⟨_, inside⟩
  · rw [idle.disk now]
    exact idle.again later
  · rw [inside] at ok ⊢
    rw [inside]
    exact derive_again solid ok later

/-! ## What stands at the root -/

/-- A file stands at the root if and only if one was renamed.  Otherwise the root may be a link
that leads to one. -/
structure FileAtRoot (after : Disk) (found : Resolution) : Prop where
  stands : (∃ c, after.linkStatus found.root = .ok (.file c)) ↔ found.MovedFile after
  leads : ∀ c, after.status found.root = .ok (.file c) →
    found.MovedFile after ∨ ∃ t, after.linkStatus found.root = .ok (.link t)

/-- No file stands at a root that is kept. -/
theorem fileAtRoot_of_keeps (idle : found.migrated = false)
    (keeps : Keeps d directory found.root) : FileAtRoot d found := by
  have noFile : (∀ c, d.status found.root ≠ .ok (.file c)) ∨
      ∃ t, d.linkStatus found.root = .ok (.link t) := by
    rcases keeps with ⟨_, noFile⟩ | ⟨root, link | ⟨waits, fault, fails⟩⟩
    · exact Or.inl noFile
    · exact Or.inr link
    · -- only a directory may be refused its new name
      obtain ⟨front, p, n, names⟩ := waits.exists_names
      rw [root, names.rename_eq] at fails
      split at fails
      · next refused =>
        obtain ⟨rfl, _⟩ := refused
        rw [root]
        refine Or.inl fun c file => ?_
        cases (status_of_linkStatus names.linkStatus_older nofun).symm.trans file
      · cases fails
  refine ⟨⟨fun ⟨c, file⟩ => ?_, fun moved => absurd moved (not_movedFile idle)⟩, fun c file => ?_⟩
  · rcases noFile with noFile | ⟨t, link⟩
    · exact absurd (status_of_linkStatus file nofun) (noFile c)
    · cases link.symm.trans file
  · rcases noFile with noFile | link
    · exact absurd file (noFile c)
    · exact Or.inr link

theorem fileAtRoot_of_derive (solid : d.IsSolid (d.origin (newerPath directory)))
    (ok : (derive d now directory).1.result = .ok found) :
    FileAtRoot (derive d now directory).2 found := by
  rcases cases_derive ok with ⟨idle, keeps⟩ | ⟨rfl, waits, renames⟩
  · rw [idle.disk now]
    exact fileAtRoot_of_keeps idle.migrated keeps
  · obtain ⟨front, p, n, names⟩ := waits.exists_names
    refine ⟨⟨fun ⟨c, file⟩ => ⟨rfl, c, status_of_linkStatus file nofun⟩, ?_⟩,
      fun c file => Or.inl ⟨rfl, c, file⟩⟩
    rintro ⟨_, c, file⟩
    rcases names.cases_behind solid renames with ⟨there, stands⟩ | ⟨fault, blocked, _⟩
    · obtain rfl := Except.ok.inj (there.symm.trans file)
      exact ⟨c, stands⟩
    · cases blocked.symm.trans file

/-- A file that was renamed stood under the older name. -/
theorem file_of_movedFile (solid : d.IsSolid (d.origin (newerPath directory)))
    (ok : (derive d now directory).1.result = .ok found)
    (moved : found.MovedFile (derive d now directory).2) :
    ∃ c, d.linkStatus (olderPath directory) = .ok (.file c) := by
  rcases cases_derive ok with ⟨idle, _⟩ | ⟨rfl, waits, renames⟩
  · exact absurd moved (not_movedFile idle.migrated)
  · obtain ⟨front, p, n, names⟩ := waits.exists_names
    obtain ⟨_, c, file⟩ := moved
    rcases names.cases_behind solid renames with ⟨there, _⟩ | ⟨fault, blocked, _⟩
    · obtain rfl := Except.ok.inj (there.symm.trans file)
      exact ⟨c, names.linkStatus_older⟩
    · cases blocked.symm.trans file

/-- Behind a search that succeeds, a second one with the same inputs leaves the disk as it is, and
it finds the same root and renames nothing, unless the first one renamed a file: then it fails.
That is also the only case in which a file stands at a root inside the data directory.  A file is
renamed only if it stood under the older name. -/
theorem resolve_settles (solid : d.IsSolid d.here)
    (ok : (resolve d now inputs).1.result = .ok found) (later : String) :
    let after := (resolve d now inputs).2
    FindsAgain after found (resolve after later inputs) ∧
      (inputs.explicit = none → FileAtRoot after found) ∧
      (found.MovedFile after →
        ∃ c, d.linkStatus (olderPath (Path.clean inputs.dataDirectory)) = .ok (.file c)) := by
  intro after
  have solid' := isSolid_of_here solid (newerPath (Path.clean inputs.dataDirectory))
  refine ⟨resolve_again solid' ok later, fun derived => ?_, fun moved => ?_⟩
  · rcases cases_resolve inputs with ⟨_, _, _, explicit, _⟩ | ⟨_, ⟨_, fails⟩ | inside⟩
    · cases derived.symm.trans explicit
    · rw [fails] at ok
      cases ok
    · have behind : after = (derive d now (Path.clean inputs.dataDirectory)).2 := by
        rw [← inside]
      rw [inside] at ok
      rw [behind]
      exact fileAtRoot_of_derive solid' ok
  · rcases cases_of_resolve ok with idle | ⟨_, inside⟩
    · exact absurd moved (not_movedFile idle.migrated)
    · have behind : after = (derive d now (Path.clean inputs.dataDirectory)).2 := by
        rw [← inside]
      rw [inside] at ok
      exact file_of_movedFile solid' ok (behind ▸ moved)

/-- An older directory is renamed once and for all. -/
theorem resolve_settles_directory :
    let d : Disk :=
      { nodes := [(["data"], .directory), (["data", "v3-hls"], .directory)], here := ["data"] }
    let inputs : Inputs := { dataDirectory := "/data" }
    let after := (resolve d "now" inputs).2
    let again := resolve after "later" inputs
    d.IsSolid d.here ∧
      ∃ found, (resolve d "now" inputs).1.result = .ok found ∧ found.migrated = true ∧
        (¬∃ c, after.linkStatus found.root = .ok (.file c)) ∧ again.2 = after ∧
        ∃ found', again.1.result = .ok found' ∧ found'.root = found.root ∧
          found'.migrated = false := by
  intro d inputs after again
  have solid : d.IsSolid d.here := (isSolid_root d).concat rfl
  have names : Names d "/data" ["data"] ["data"] .directory := names_of_data rfl rfl nofun rfl
  have ok : (resolve d "now" inputs).1.result =
      .ok { root := newerPath "/data", migrated := true } := by
    rw [resolve_data]
    exact names.migrates rfl "now"
  obtain ⟨finds, atRoot, wasFile⟩ := resolve_settles solid ok "later"
  have noFile : ¬Resolution.MovedFile { root := newerPath "/data", migrated := true } after := by
    intro moved
    obtain ⟨c, file⟩ := wasFile moved
    rw [clean_data] at file
    cases names.linkStatus_older.symm.trans file
  obtain ⟨found', result⟩ := finds.succeeds.mpr noFile
  refine ⟨solid, _, ok, rfl, ?_, finds.disk, found', result, finds.root found' result,
    finds.migrated found' result⟩
  rw [(atRoot (by decide)).stands]
  exact noFile

/-- A file under the older name is renamed as well, and refused under the newer one. -/
theorem resolve_refuses_renamed :
    let d : Disk := { nodes := [(["data"], .directory), (["data", "v3-hls"], .file (.text "x"))] }
    let inputs : Inputs := { dataDirectory := "/data" }
    let after := (resolve d "now" inputs).2
    inputs.explicit = none ∧
      ∃ found, (resolve d "now" inputs).1.result = .ok found ∧
        after.linkStatus found.root = .ok (.file (.text "x")) ∧
        ∀ found', (resolve after "later" inputs).1.result ≠ .ok found' := by
  intro d inputs after
  have names : Names d "/data" ["data"] ["data"] (.file (.text "x")) :=
    names_of_data rfl rfl nofun rfl
  have solid : d.IsSolid (d.origin (newerPath "/data")) := isSolid_of_here (isSolid_root d) _
  have ok := names.migrates rfl "now"
  have behind : after = (derive d "now" "/data").2 := congrArg Prod.snd (resolve_data d "now")
  rcases cases_derive ok with ⟨idle, _⟩ | ⟨_, _, renames⟩
  · cases idle.migrated
  · rw [← behind] at renames
    obtain ⟨displaced, come⟩ := names.displaced_of_renames solid renames
    have data : after.look ["data"] = some .directory :=
      displaced.kept ["data"] (by decide) (by decide) trivial
    have file := names.newer.status_found isName_directoryName (reached_data data) come nofun
    rw [← resolve_data] at ok
    have again : FindsAgain after _ (resolve after "later" inputs) :=
      resolve_again (clean_data.symm ▸ solid) ok "later"
    refine ⟨rfl, _, ok, ?_, fun found' result => ?_⟩
    · rw [names.newer.linkStatus_reached isName_directoryName (reached_data data)]
      exact congrArg (Option.elim · _ _) come
    · exact again.succeeds.mp ⟨found', result⟩ ⟨rfl, _, file⟩

end LayeredConfig.HlsRoot
