import LayeredConfig.Proofs.Disk.Way
import LayeredConfig.Proofs.HlsRoot
import LayeredConfig.Proofs.Path

/-!
# The older directory under its new name

A search for the root of the live stream renames nothing and leaves the disk as it
is, or it renames what stands under the older name in the data directory and puts
a marker into it.  The path to the newer name leads to what was renamed then,
unless the data directory was named by a way through the older name: then both
paths lead nowhere.

Results:
1. `cases_derive`, `cases_resolve`: what a search can do.
2. `Names.displaced_of_rename`: what the renaming did.
3. `Names.exists_put_of_marker`: where the marker is written.
4. `Names.cases_behind`: where the two paths lead afterwards.
-/

namespace LayeredConfig.HlsRoot

open Success Disk

variable {d after moved : Disk} {now directory : String} {found : Resolution} {inputs : Inputs}

/-! ## The paths -/

abbrev newerPath (directory : String) : String := Path.inside directory directoryName

abbrev olderPath (directory : String) : String := Path.inside directory olderDirectoryName

abbrev markerPath (directory : String) : String := Path.inside (newerPath directory) markerName

theorem isName_directoryName : IsName directoryName :=
  ⟨by decide, by decide, by decide⟩

theorem isName_olderDirectoryName : IsName olderDirectoryName :=
  ⟨by decide, by decide, by decide⟩

theorem isName_markerName : IsName markerName :=
  ⟨by decide, by decide, by decide⟩

/-- The newer path is no longer than the older one. -/
theorem admits_newer (admits : Admits (olderPath directory)) : Admits (newerPath directory) := by
  obtain ⟨before, shape⟩ := Path.exists_inside_eq directory
  have whole (name : String) :
      Path.inside directory name = String.ofList (before ++ ['/']) ++ name := by
    rw [shape, ← String.toList_inj]
    simp
  obtain ⟨_, noNul, short⟩ := admits
  rw [olderPath, whole] at noNul short
  rw [newerPath, whole]
  refine ⟨?_, ?_, ?_⟩
  · rw [String.isEmpty_iff, ← String.toList_inj, String.toList_append]
    exact List.append_ne_nil_of_right_ne_nil _ (by decide)
  · rw [List.contains_iff_mem, String.toList_append, List.mem_append, not_or] at noNul ⊢
    exact ⟨noNul.1, by decide⟩
  · rw [String.utf8ByteSize_append] at short ⊢
    have shorter : directoryName.utf8ByteSize ≤ olderDirectoryName.utf8ByteSize := by decide
    omega

/-- All three paths start from the same place. -/
theorem origin_olderPath (d : Disk) (directory : String) :
    d.origin (olderPath directory) = d.origin (newerPath directory) := by
  unfold Disk.origin
  rw [Path.isRooted_inside_congr directory olderDirectoryName directoryName]

theorem origin_markerPath (d : Disk) (directory : String) :
    d.origin (markerPath directory) = d.origin (newerPath directory) := by
  unfold Disk.origin
  rw [Path.isRooted_inside_inside]

theorem isSolid_of_rooted (d : Disk) {raw : String} (rooted : isRooted raw = true) :
    d.IsSolid (d.origin (newerPath (Path.clean raw))) := by
  rw [Disk.origin, if_pos (Path.isRooted_inside (Path.isRooted_clean rooted) _)]
  exact isSolid_root d

theorem isSolid_of_here (solid : d.IsSolid d.here) (path : String) : d.IsSolid (d.origin path) := by
  unfold Disk.origin
  split
  · exact isSolid_root d
  · exact solid

/-- All three paths lead behind the same steps. -/
theorem leads_behind {front : List String} (admits : Admits (olderPath directory))
    (behind : stepsOf (newerPath directory) = front ++ [directoryName]) :
    Leads (newerPath directory) front [directoryName] ∧
      Leads (olderPath directory) front [olderDirectoryName] ∧
      (Admits (markerPath directory) →
        Leads (markerPath directory) front [directoryName, markerName]) := by
  have older : stepsOf (olderPath directory) = front ++ [olderDirectoryName] := by
    obtain ⟨front', steps⟩ := Path.exists_steps_inside directory
    rw [steps directoryName (by decide) (by decide)] at behind
    rw [steps olderDirectoryName (by decide) (by decide), List.append_cancel_right behind]
  refine ⟨leads_of_steps (admits_newer admits) behind nofun, leads_of_steps admits older nofun,
    fun admits' => leads_of_steps admits' ?_ nofun⟩
  rw [Path.stepsOf_inside_inside (by decide) (by decide) (by decide) (by decide), behind,
    List.append_assoc]
  rfl

/-! ## What a search can do -/

/-- A search that renames nothing leaves the disk as it is and finds the same at any time. -/
structure Idle (d : Disk) (found : Resolution) (search : String → Outcome) : Prop where
  migrated : found.migrated = false
  disk : ∀ now, (search now).2 = d
  result : ∀ now, (search now).1.result = .ok found

theorem idle_settle {result : Except Failure Resolution} {warnings : List Warning}
    (migrated : found.migrated = false) (ok : result = .ok found) :
    Idle d found fun _ => settle d result warnings :=
  ⟨migrated, fun _ => rfl, fun _ => ok⟩

/-- The disk behind a renaming, with the marker in it or, if that failed, without. -/
def Renames (d : Disk) (older target now : String) (after : Disk) : Prop :=
  ∃ moved, d.rename older target = .ok moved ∧
    let written := moved.writeText (Path.inside target markerName) (markerText older now)
    ((∃ fault, written = .error fault) ∧ after = moved ∨ written = .ok after)

theorem cases_migrate {older target : String}
    (ok : (migrate d now older target).1.result = .ok found) :
    (Idle d found (fun now => migrate d now older target) ∧ found.root = older ∧
      ∃ fault, d.rename older target = .error fault) ∨
      (found = { root := target, migrated := true } ∧
        Renames d older target now (migrate d now older target).2) := by
  unfold migrate at ok ⊢
  cases renamed : d.rename older target with
  | error fault =>
      simp only [renamed] at ok ⊢
      obtain rfl := Except.ok.inj ok
      exact Or.inl ⟨idle_settle rfl rfl, rfl, fault, rfl⟩
  | ok moved =>
      simp only [renamed] at ok ⊢
      cases written : moved.writeText (Path.inside target markerName) (markerText older now) with
      | error fault =>
          simp only [written] at ok ⊢
          exact Or.inr ⟨(Except.ok.inj ok).symm, moved, renamed, Or.inl ⟨⟨_, written⟩, rfl⟩⟩
      | ok marked =>
          simp only [written] at ok ⊢
          exact Or.inr ⟨(Except.ok.inj ok).symm, moved, renamed, Or.inr written⟩

/-- Something stands under the older name, which is no link, and the newer path leads nowhere. -/
structure Waits (d : Disk) (directory : String) : Prop where
  nothing : ∃ fault, d.status (newerPath directory) = .error fault
  standing : ∃ n, d.linkStatus (olderPath directory) = .ok n ∧ ∀ t, n ≠ .link t

/-- The root is kept as it stands: the newer path, where no file is, or the older path, where a link
is or what could not be renamed. -/
def Keeps (d : Disk) (directory root : String) : Prop :=
  (root = newerPath directory ∧ ∀ c, d.status root ≠ .ok (.file c)) ∨
    (root = olderPath directory ∧
      ((∃ t, d.linkStatus root = .ok (.link t)) ∨
        Waits d directory ∧ ∃ fault, d.rename root (newerPath directory) = .error fault))

theorem cases_derive (ok : (derive d now directory).1.result = .ok found) :
    (Idle d found (fun now => derive d now directory) ∧ Keeps d directory found.root) ∨
      (found = { root := newerPath directory, migrated := true } ∧ Waits d directory ∧
        Renames d (olderPath directory) (newerPath directory) now
          (derive d now directory).2) := by
  unfold derive at ok ⊢
  cases target : d.status (newerPath directory) with
  | ok n =>
      simp only [target] at ok ⊢
      cases n with
      | directory =>
          obtain rfl := Except.ok.inj ok
          refine Or.inl ⟨idle_settle rfl rfl, Or.inl ⟨rfl, fun c file => ?_⟩⟩
          cases target.symm.trans file
      | file _ | link _ => cases ok
  | error fault =>
      simp only [target] at ok ⊢
      cases older : d.linkStatus (olderPath directory) with
      | error _ =>
          simp only [older] at ok ⊢
          obtain rfl := Except.ok.inj ok
          refine Or.inl ⟨idle_settle rfl rfl, Or.inl ⟨rfl, fun c file => ?_⟩⟩
          cases target.symm.trans file
      | ok n =>
          simp only [older] at ok ⊢
          cases n with
          | link t =>
              obtain rfl := Except.ok.inj ok
              exact Or.inl ⟨idle_settle rfl rfl, Or.inr ⟨rfl, Or.inl ⟨t, older⟩⟩⟩
          | directory | file _ =>
              have waits : Waits d directory := ⟨⟨fault, target⟩, ⟨_, older, nofun⟩⟩
              rcases cases_migrate ok with ⟨idle, root, fails⟩ | ⟨whole, renames⟩
              · refine Or.inl ⟨idle, Or.inr ⟨root, Or.inr ⟨waits, ?_⟩⟩⟩
                rw [root]
                exact fails
              · exact Or.inr ⟨whole, waits, renames⟩

/-- The root that is given by name: the first of the texts that is not blank. -/
def Inputs.explicit (inputs : Inputs) : Option String :=
  [inputs.primary, inputs.legacy, inputs.configured].find? fun raw => !isBlank raw

theorem explicit_eq_none_iff : inputs.explicit = none ↔
    isBlank inputs.primary = true ∧ isBlank inputs.legacy = true ∧
      isBlank inputs.configured = true := by
  simp [Inputs.explicit]

/-- A search takes the root that is given by name and does not look at the disk, or it looks into
the data directory, if one is given. -/
theorem cases_resolve (inputs : Inputs) :
    (∃ (raw : String) (build : String → Resolution) (warnings : List Warning),
      inputs.explicit = some raw ∧
      (∀ path, (build path).root = path ∧ (build path).migrated = false) ∧
      ∀ d now, resolve d now inputs = settle d (do return build (← usable raw)) warnings) ∨
    (inputs.explicit = none ∧ ((∃ f, ∀ d now, resolve d now inputs = settle d (.error f) []) ∨
      ∀ d now, resolve d now inputs = derive d now (Path.clean inputs.dataDirectory))) := by
  unfold resolve Inputs.explicit
  cases primary : isBlank inputs.primary with
  | false =>
      refine Or.inl ⟨inputs.primary, fun root => { root, fromVariable := true }, _, ?_,
        fun _ => ⟨rfl, rfl⟩, fun _ _ => rfl⟩
      simp [primary]
  | true =>
      cases legacy : isBlank inputs.legacy with
      | false =>
          refine Or.inl ⟨inputs.legacy,
            fun root => { root, fromVariable := true, fromOlderVariable := true }, _, ?_,
            fun _ => ⟨rfl, rfl⟩, fun _ _ => rfl⟩
          simp [primary, legacy]
      | true =>
          cases configured : isBlank inputs.configured with
          | false =>
              refine Or.inl ⟨inputs.configured, fun root => { root }, _, ?_,
                fun _ => ⟨rfl, rfl⟩, fun _ _ => rfl⟩
              simp [primary, legacy, configured]
          | true =>
              refine Or.inr ⟨by simp [primary, legacy, configured], ?_⟩
              simp only [Bool.not_true, Bool.false_eq_true, if_false]
              by_cases nowhere : isBlank inputs.dataDirectory = true
              · exact Or.inl ⟨_, fun _ _ => if_pos nowhere⟩
              · exact Or.inr fun _ _ => if_neg nowhere

/-- A search that succeeds renames nothing, or it looks into the data directory. -/
theorem cases_of_resolve (ok : (resolve d now inputs).1.result = .ok found) :
    (Idle d found fun now => resolve d now inputs) ∨
      inputs.explicit = none ∧
        ∀ d now, resolve d now inputs = derive d now (Path.clean inputs.dataDirectory) := by
  rcases cases_resolve inputs with
    ⟨raw, build, warnings, _, builds, search⟩ | ⟨_, ⟨f, search⟩ | search⟩
  · rw [search] at ok
    obtain ⟨path, _, built⟩ := bind_eq_ok.mp ok
    rw [← pure_eq_ok.mp built] at ok ⊢
    refine Or.inl ⟨(builds path).2, fun now => ?_, fun now => ?_⟩
    · rw [search]
      rfl
    · rw [search]
      exact ok
  · rw [search] at ok
    cases ok
  · exact Or.inr ⟨‹_›, search⟩

/-- Only a migration changes the disk. -/
theorem disk_of_resolve (ok : (resolve d now inputs).1.result = .ok found)
    (migrated : found.migrated = false) : (resolve d now inputs).2 = d := by
  rcases cases_of_resolve ok with idle | ⟨_, inside⟩
  · exact idle.disk now
  · rw [inside] at ok ⊢
    rcases cases_derive ok with ⟨idle, _⟩ | ⟨rfl, _⟩
    · exact idle.disk now
    · cases migrated

/-! ## The names in the data directory -/

variable {front : List String} {p : Place} {n : Node}

/-- The steps to the data directory lead to a place where something stands under the older name,
which is no link, and nothing but a link under the newer one. -/
structure Names (d : Disk) (directory : String) (front : List String) (p : Place) (n : Node) :
    Prop where
  newer : Leads (newerPath directory) front [directoryName]
  older : Leads (olderPath directory) front [olderDirectoryName]
  marker : Admits (markerPath directory) →
    Leads (markerPath directory) front [directoryName, markerName]
  reached : ∃ links, d.approach maxLinks (d.origin (newerPath directory)) front = .ok (links, p)
  there : d.look (p ++ [olderDirectoryName]) = some n
  noLink : ∀ t, n ≠ .link t
  noNode : ∀ m, (∀ t, m ≠ .link t) → d.look (p ++ [directoryName]) ≠ some m

theorem Waits.exists_names (waits : Waits d directory) :
    ∃ front p n, Names d directory front p n := by
  obtain ⟨⟨fault, nothing⟩, n, found, noLink⟩ := waits
  obtain ⟨_, resolved, _⟩ := bind_eq_ok.mp found
  obtain ⟨front, steps⟩ := Path.exists_steps_inside directory
  obtain ⟨newer, older, marker⟩ :=
    leads_behind (admits_of_resolve resolved) (steps directoryName (by decide) (by decide))
  obtain ⟨links, p, reached, there⟩ := older.exists_of_linkStatus isName_olderDirectoryName found
  rw [origin_olderPath] at reached
  refine ⟨front, p, n, newer, older, marker, ⟨links, reached⟩, there, noLink, ?_⟩
  intro m noLink there
  cases nothing.symm.trans (newer.status_found isName_directoryName reached there noLink)

/-- Something stands under the older name, and nothing under the newer one. -/
theorem names_of_free (admits : Admits (olderPath directory))
    (behind : stepsOf (newerPath directory) = front ++ [directoryName])
    (reached : ∃ links, d.approach maxLinks (d.origin (newerPath directory)) front = .ok (links, p))
    (there : d.look (p ++ [olderDirectoryName]) = some n) (noLink : ∀ t, n ≠ .link t)
    (free : d.look (p ++ [directoryName]) = none) : Names d directory front p n := by
  obtain ⟨newer, older, marker⟩ := leads_behind admits behind
  refine ⟨newer, older, marker, reached, there, noLink, fun m _ standing => ?_⟩
  cases free.symm.trans standing

theorem beside_names (p : Place) : Beside (p ++ [olderDirectoryName]) (p ++ [directoryName]) :=
  ⟨p, olderDirectoryName, directoryName, by decide, rfl, rfl⟩

theorem relocate_parent (p : Place) :
    relocate (p ++ [olderDirectoryName]) (p ++ [directoryName]) p = p := by
  have out := (beside_names p).not_prefix_dropLast
  rw [List.dropLast_concat] at out
  exact relocate_other _ out

namespace Names

variable (names : Names d directory front p n)
include names

theorem resolve_older :
    d.resolve false (olderPath directory) = .ok (p ++ [olderDirectoryName]) := by
  obtain ⟨links, reached⟩ := names.reached
  rw [← origin_olderPath] at reached
  exact names.older.resolve_last isName_olderDirectoryName reached nofun

theorem linkStatus_older : d.linkStatus (olderPath directory) = .ok n := by
  obtain ⟨links, reached⟩ := names.reached
  rw [← origin_olderPath] at reached
  rw [names.older.linkStatus_reached isName_olderDirectoryName reached, names.there]
  rfl

theorem resolve_newer : d.resolve false (newerPath directory) = .ok (p ++ [directoryName]) := by
  obtain ⟨links, reached⟩ := names.reached
  exact names.newer.resolve_last isName_directoryName reached nofun

/-- A directory does not take the place of a link; all else can be renamed. -/
theorem rename_eq :
    d.rename (olderPath directory) (newerPath directory) =
      if n = .directory ∧ (d.look (p ++ [directoryName])).isSome then .error .notDirectory
      else .ok (d.move (p ++ [olderDirectoryName]) (p ++ [directoryName])) := by
  rw [rename, names.resolve_older, names.resolve_newer]
  simp only [bind, Except.bind, names.there]
  cases newer : d.look (p ++ [directoryName]) with
  | none => cases n <;> rfl
  | some m =>
      cases m with
      | directory | file _ => exact absurd newer (names.noNode _ nofun)
      | link t =>
          cases n with
          | directory => rfl
          | file _ => rfl
          | link t => exact absurd rfl (names.noLink t)

theorem eq_move_of_rename
    (renamed : d.rename (olderPath directory) (newerPath directory) = .ok moved) :
    moved = d.move (p ++ [olderDirectoryName]) (p ++ [directoryName]) ∧
      (IsWay (d.look (p ++ [directoryName])) → n ≠ .directory) := by
  rw [names.rename_eq] at renamed
  split at renamed
  · cases renamed
  · next allowed =>
    refine ⟨(Except.ok.inj renamed).symm, fun way isDirectory => allowed ⟨isDirectory, ?_⟩⟩
    cases there : d.look (p ++ [directoryName]) with
    | none => exact (there ▸ way : IsWay none).elim
    | some m => rfl

/-- What stands under the older name is renamed if nothing stands under the newer one. -/
theorem migrates (free : d.look (p ++ [directoryName]) = none) (now : String) :
    (derive d now directory).1.result = .ok { root := newerPath directory, migrated := true } := by
  obtain ⟨links, reached⟩ := names.reached
  have nothing : d.status (newerPath directory) = .error .notFound := by
    rw [status, names.newer.resolve_last isName_directoryName reached fun _ t link => ?_]
    · simp only [bind, Except.bind, free]
    · cases free.symm.trans link
  have renamed : d.rename (olderPath directory) (newerPath directory) =
      .ok (d.move (p ++ [olderDirectoryName]) (p ++ [directoryName])) := by
    rw [names.rename_eq, free]
    simp
  unfold derive
  simp only [nothing, names.linkStatus_older]
  cases n with
  | link t => exact absurd rfl (names.noLink t)
  | directory | file _ =>
      unfold migrate
      simp only [renamed]
      split <;> rfl

/-- What the renaming did. -/
theorem displaced_of_rename
    (renamed : d.rename (olderPath directory) (newerPath directory) = .ok moved) :
    Displaced (p ++ [olderDirectoryName]) (p ++ [directoryName]) d moved ∧
      moved.look (p ++ [directoryName]) = some n := by
  obtain ⟨rfl, replaces⟩ := names.eq_move_of_rename renamed
  have beside := beside_names p
  have come := look_move_target d beside.notRoot beside.symm.notRoot
  have gone := look_move_source d beside.notRoot beside.symm.notRoot (List.prefix_refl _)
    beside.symm.not_prefix
  have there := (come []).trans (by rw [List.append_nil, names.there])
  rw [List.append_nil] at there
  refine ⟨⟨beside, here_move d _ _, ?_, fun rest _ => come rest, ?_, ?_⟩, there⟩
  · intro q out out' _
    exact look_move_other d beside.notRoot beside.symm.notRoot out out'
  · rw [gone]
    exact id
  · intro way
    rw [there]
    cases n with
    | directory => exact absurd rfl (replaces way)
    | file _ => exact id
    | link t => exact absurd rfl (names.noLink t)

/-- The paths do not start below the newer name. -/
theorem out_newer (solid : d.IsSolid (d.origin (newerPath directory))) :
    ¬(p ++ [directoryName]) <+: d.origin (newerPath directory) :=
  fun below => names.noNode .directory nofun (solid _ below)

/-- Afterwards the steps to the data directory lead to the same place or nowhere. -/
theorem approach_behind (solid : d.IsSolid (d.origin (newerPath directory)))
    (displaced : Displaced (p ++ [olderDirectoryName]) (p ++ [directoryName]) d after) :
    (∃ links,
      after.approach maxLinks (after.origin (newerPath directory)) front = .ok (links, p)) ∨
      ∃ fault,
        after.approach maxLinks (after.origin (newerPath directory)) front = .error fault := by
  obtain ⟨links, reached⟩ := names.reached
  rw [displaced.origin]
  rcases displaced.approach (names.out_newer solid) reached with same | blocked
  · rw [relocate_parent] at same
    exact Or.inl ⟨links, same⟩
  · exact Or.inr blocked

/-- The marker is written under its name in what was renamed, which is a directory then, unless a
link stands there. -/
theorem exists_put_of_marker {text : String}
    (solid : d.IsSolid (d.origin (newerPath directory)))
    (displaced : Displaced (p ++ [olderDirectoryName]) (p ++ [directoryName]) d moved)
    (come : moved.look (p ++ [directoryName]) = some n)
    (written : moved.writeText (markerPath directory) text = .ok after) :
    n = .directory ∧ ∃ q, moved.resolve true (markerPath directory) = .ok q ∧ q ≠ [] ∧
      ¬IsWay (moved.look q) ∧ after = moved.put q (.file (.text text)) ∧
      ((∀ t, moved.look (p ++ [directoryName] ++ [markerName]) ≠ some (.link t)) →
        q = p ++ [directoryName] ++ [markerName]) := by
  have solid' : moved.IsSolid (moved.origin (markerPath directory)) := by
    rw [origin_markerPath, displaced.origin]
    exact displaced.isSolid (names.out_newer solid) solid
  obtain ⟨q, found, notRoot, noWay, whole⟩ := exists_put_of_writeText solid' written
  suffices place : n = .directory ∧
      ((∀ t, moved.look (p ++ [directoryName] ++ [markerName]) ≠ some (.link t)) →
        q = p ++ [directoryName] ++ [markerName]) from
    ⟨place.1, q, found, notRoot, noWay, whole, place.2⟩
  have leads := names.marker (admits_of_resolve found)
  rcases names.approach_behind solid displaced with ⟨links, reached⟩ | ⟨fault, blocked⟩
  · rw [← origin_markerPath] at reached
    rw [leads, reached] at found
    replace found : moved.walk true links p [directoryName, markerName] = .ok q := found
    cases n with
    | link t => exact absurd rfl (names.noLink t)
    | file c =>
        rw [walk_file isName_directoryName links (List.cons_ne_nil _ _) come] at found
        cases found
    | directory =>
        refine ⟨rfl, fun noLink => ?_⟩
        rw [walk_through isName_directoryName links come,
          walk_last isName_markerName links fun _ => noLink] at found
        exact (Except.ok.inj found).symm
  · rw [← origin_markerPath] at blocked
    rw [leads.resolve_blocked true blocked] at found
    cases found

/-- What was renamed stands under the newer name, and no other way through is new or gone. -/
theorem displaced_of_renames (solid : d.IsSolid (d.origin (newerPath directory)))
    (renames : Renames d (olderPath directory) (newerPath directory) now after) :
    Displaced (p ++ [olderDirectoryName]) (p ++ [directoryName]) d after ∧
      after.look (p ++ [directoryName]) = some n := by
  obtain ⟨moved, renamed, behind⟩ := renames
  obtain ⟨displaced, come⟩ := names.displaced_of_rename renamed
  rcases behind with ⟨_, rfl⟩ | written
  · exact ⟨displaced, come⟩
  · obtain ⟨rfl, q, _, notRoot, noWay, rfl, _⟩ :=
      names.exists_put_of_marker solid displaced come written
    refine ⟨displaced.put notRoot noWay, ?_⟩
    rw [look_put_of_way noWay (come ▸ trivial), come]

/-- Afterwards the newer path leads to what was renamed, or both paths lead nowhere. -/
theorem cases_behind (solid : d.IsSolid (d.origin (newerPath directory)))
    (renames : Renames d (olderPath directory) (newerPath directory) now after) :
    (after.status (newerPath directory) = .ok n ∧ after.linkStatus (newerPath directory) = .ok n) ∨
      ∃ fault, after.status (newerPath directory) = .error fault ∧
        after.linkStatus (newerPath directory) = .error fault ∧
        after.linkStatus (olderPath directory) = .error fault := by
  obtain ⟨displaced, come⟩ := names.displaced_of_renames solid renames
  rcases names.approach_behind solid displaced with ⟨links, reached⟩ | ⟨fault, blocked⟩
  · refine Or.inl ⟨names.newer.status_found isName_directoryName reached come names.noLink, ?_⟩
    rw [names.newer.linkStatus_reached isName_directoryName reached, come]
    rfl
  · refine Or.inr ⟨fault, names.newer.status_blocked blocked,
      names.newer.linkStatus_blocked blocked, names.older.linkStatus_blocked ?_⟩
    rw [origin_olderPath]
    exact blocked

end Names

/-! ## A data directory in the root -/

theorem reached_data (there : d.look ["data"] = some .directory) :
    d.approach maxLinks (d.origin (newerPath "/data")) ["data"] = .ok (maxLinks, ["data"]) := by
  have rooted : d.origin (newerPath "/data") = [] := if_pos (by decide)
  rw [rooted, approach_through ⟨by decide, by decide, by decide⟩ _ there, approach]
  rfl

theorem names_of_data (data : d.look ["data"] = some .directory)
    (there : d.look ["data", olderDirectoryName] = some n) (noLink : ∀ t, n ≠ .link t)
    (free : d.look ["data", directoryName] = none) : Names d "/data" ["data"] ["data"] n :=
  names_of_free ⟨by decide, by decide, by decide⟩ (by decide) ⟨_, reached_data data⟩ there noLink
    free

theorem clean_data : Path.clean "/data" = "/data" := by decide

theorem resolve_data (d : Disk) (now : String) :
    resolve d now { dataDirectory := "/data" } = derive d now "/data" := by
  unfold resolve
  rw [if_neg (by decide), if_neg (by decide), if_neg (by decide), if_neg (by decide), clean_data]

end LayeredConfig.HlsRoot
