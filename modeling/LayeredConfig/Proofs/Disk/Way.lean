import LayeredConfig.Proofs.Disk
import LayeredConfig.Proofs.Disk.Rename
import LayeredConfig.Proofs.Success

/-!
# The way to the end of a path

A path leads through directories and links to a place, where its last step is
taken.  After a rename a path that led somewhere leads there still, or to the
place under its new name, or it led past the old name and now leads nowhere.

Results:
1. `walk_append`: the last steps of a path are taken from where the others lead.
2. `Displaced.approach`: what becomes of the way to the last step.
3. `exists_put_of_writeText`: a file is written where no way leads through.
-/

namespace LayeredConfig.Disk

variable {d d' : Disk} {source target p q : Place}

/-! ## The way to the last step -/

/-- Follows steps as `walk` does while more steps are to come: it has to get through everywhere.
Gives the links that are left and the place. -/
def approach (d : Disk) (links : Nat) (start : Place) (steps : List String) :
    Except Fault (Nat × Place) :=
  match steps with
  | [] => .ok (links, start)
  | step :: rest =>
      if step = "." then approach d links start rest
      else if step = ".." then approach d links start.dropLast rest
      else if maxName < step.utf8ByteSize then .error .nameTooLong
      else
        match d.look (start ++ [step]) with
        | none => .error .notFound
        | some .directory => approach d links (start ++ [step]) rest
        | some (.file _) => .error .notDirectory
        | some (.link target) =>
            if target.isEmpty then .error .notFound
            else
              match links with
              | 0 => .error .tooManyLinks
              | links + 1 =>
                  approach d links (if isRooted target then [] else start)
                    (stepsOf target ++ rest)
termination_by (links, steps.length)

/-- The last steps of a path are taken from where the others lead. -/
theorem walk_append (d : Disk) (followLast : Bool) (links : Nat) (start : Place)
    (front : List String) {last : List String} (more : last ≠ []) :
    d.walk followLast links start (front ++ last) =
      (d.approach links start front).bind fun (links, p) => d.walk followLast links p last := by
  have moreToCome (rest : List String) : (rest ++ last).isEmpty = false := by simp [more]
  fun_induction approach d links start front with
  | case1 links start => rfl
  | case2 links start rest ih => rw [List.cons_append, walk, if_pos rfl, ih]
  | case3 links start rest noDot ih =>
      rw [List.cons_append, walk, if_neg noDot, if_pos rfl, ih]
  | case4 links start step rest noDot noDots long =>
      rw [List.cons_append, walk, if_neg noDot, if_neg noDots, if_pos long]
      rfl
  | case5 links start step rest noDot noDots short found =>
      rw [List.cons_append, walk, if_neg noDot, if_neg noDots, if_neg short]
      simp only [found, moreToCome]
      rfl
  | case6 links start step rest noDot noDots short found ih =>
      rw [List.cons_append, walk, if_neg noDot, if_neg noDots, if_neg short]
      simp only [found]
      exact ih
  | case7 links start step rest noDot noDots short content found =>
      rw [List.cons_append, walk, if_neg noDot, if_neg noDots, if_neg short]
      simp only [found, moreToCome]
      rfl
  | case8 links start step rest noDot noDots short target found nowhere =>
      rw [List.cons_append, walk, if_neg noDot, if_neg noDots, if_neg short]
      simp only [found, moreToCome, nowhere]
      rfl
  | case9 start step rest noDot noDots short target found somewhere =>
      rw [List.cons_append, walk, if_neg noDot, if_neg noDots, if_neg short]
      simp only [found, moreToCome, somewhere]
      rfl
  | case10 start step rest noDot noDots short target found somewhere links ih =>
      rw [List.cons_append, walk, if_neg noDot, if_neg noDots, if_neg short]
      simp only [found, moreToCome, somewhere]
      rw [← List.append_assoc]
      exact ih

/-- A path can lead on through directories and links. -/
def IsWay : Option Node → Prop
  | some .directory | some (.link _) => True
  | some (.file _) | none => False

/-- On the way, a place that is no way through ends the path. -/
theorem approach_blocked {links : Nat} {start : Place} {step : String} {rest : List String}
    (noDot : ¬step = ".") (noDots : ¬step = "..") (short : ¬maxName < step.utf8ByteSize)
    (blocked : ¬IsWay (d.look (start ++ [step]))) :
    ∃ fault, d.approach links start (step :: rest) = .error fault := by
  rw [approach, if_neg noDot, if_neg noDots, if_neg short]
  cases found : d.look (start ++ [step]) with
  | none => exact ⟨.notFound, rfl⟩
  | some node =>
      cases node with
      | file content => exact ⟨.notDirectory, rfl⟩
      | directory | link _ =>
          rw [found] at blocked
          exact absurd trivial blocked

/-- What stood at and below one name is now at and below the other, and all ways through are still
there, but none through the old name, and none through the new one both before and after. -/
structure Displaced (source target : Place) (d d' : Disk) : Prop where
  beside : Beside source target
  here : d'.here = relocate source target d.here
  kept : ∀ p, ¬source <+: p → ¬target <+: p → IsWay (d.look p) → d'.look p = d.look p
  moved : ∀ rest, IsWay (d.look (source ++ rest)) →
    d'.look (target ++ rest) = d.look (source ++ rest)
  source : ¬IsWay (d'.look source)
  target : IsWay (d.look target) → ¬IsWay (d'.look target)

/-- A step that does not start at or below a place gets below it through the place only. -/
theorem eq_of_prefix_step {start : Place} {step : String} (out : ¬p <+: start)
    (below : p <+: start ++ [step]) : start ++ [step] = p := by
  rcases List.prefix_concat_iff.mp below with whole | before
  · exact whole.symm
  · exact absurd before out

theorem not_prefix_dropLast {start : Place} (out : ¬p <+: start) : ¬p <+: start.dropLast :=
  fun below => out (below.trans (List.dropLast_prefix start))

/-- Where the target of a link starts from. -/
theorem not_prefix_restart {start : Place} {linked : String} (out : ¬p <+: start) :
    ¬p <+: if isRooted linked then [] else start := by
  split
  · intro below
    rw [List.prefix_nil.mp below] at out
    exact out List.nil_prefix
  · exact out

namespace Displaced

variable (displaced : Displaced source target d d')
include displaced

/-- The next place on a way is the same on both disks, under its new name, or the way is blocked on
the second. -/
theorem step (links : Nat) {start : Place} {step : String} (rest : List String)
    (outTarget : ¬target <+: start) (noDot : ¬step = ".") (noDots : ¬step = "..")
    (short : ¬maxName < step.utf8ByteSize) (way : IsWay (d.look (start ++ [step]))) :
    (∃ fault, d'.approach links (relocate source target start) (step :: rest) = .error fault) ∨
      (¬target <+: start ++ [step] ∧
        relocate source target (start ++ [step]) = relocate source target start ++ [step] ∧
        d'.look (relocate source target start ++ [step]) = d.look (start ++ [step])) := by
  rcases cases_relocate source target start with ⟨below, rfl, moved⟩ | ⟨outSource, same⟩
  · right
    rw [moved]
    refine ⟨?_, ?_, ?_⟩
    · intro inTarget
      refine displaced.beside.not_prefix ?_
      rw [← eq_of_prefix_step outTarget inTarget, List.append_assoc]
      exact List.prefix_append _ _
    · rw [List.append_assoc, relocate_append, List.append_assoc]
    · rw [List.append_assoc] at way ⊢
      rw [displaced.moved _ way, List.append_assoc]
  · rw [same]
    by_cases inSource : source <+: start ++ [step]
    · left
      refine approach_blocked noDot noDots short ?_
      rw [eq_of_prefix_step outSource inSource]
      exact displaced.source
    · by_cases inTarget : target <+: start ++ [step]
      · left
        have there := eq_of_prefix_step outTarget inTarget
        refine approach_blocked noDot noDots short ?_
        rw [there] at way ⊢
        exact displaced.target way
      · exact Or.inr ⟨inTarget, relocate_other target inSource,
          displaced.kept _ inSource inTarget way⟩

/-- The way to the last step is the same on both disks, up to the new name, or it ends on the
second. -/
theorem approach {links : Nat} {start : Place} {front : List String} (outTarget : ¬target <+: start)
    {reached : Nat × Place} (found : d.approach links start front = .ok reached) :
    d'.approach links (relocate source target start) front =
        .ok (reached.1, relocate source target reached.2) ∨
      ∃ fault, d'.approach links (relocate source target start) front = .error fault := by
  fun_induction Disk.approach d links start front with
  | case1 links start =>
      left
      rw [Disk.approach, ← Except.ok.inj found]
  | case2 links start rest ih =>
      rw [Disk.approach, if_pos rfl]
      exact ih outTarget found
  | case3 links start rest noDot ih =>
      rw [Disk.approach, if_neg noDot, if_pos rfl, ← displaced.beside.relocate_dropLast]
      exact ih (not_prefix_dropLast outTarget) found
  | case4 | case5 | case7 | case8 | case9 => cases found
  | case6 links start step rest noDot noDots short there ih =>
      have way : IsWay (d.look (start ++ [step])) := there ▸ trivial
      rcases displaced.step links rest outTarget noDot noDots short way with
        blocked | ⟨outTarget', moved, same⟩
      · exact Or.inr blocked
      · rw [Disk.approach, if_neg noDot, if_neg noDots, if_neg short]
        simp only [same, there]
        rw [← moved]
        exact ih outTarget' found
  | case10 start step rest noDot noDots short linked there somewhere links ih =>
      have way : IsWay (d.look (start ++ [step])) := there ▸ trivial
      rcases displaced.step (links + 1) rest outTarget noDot noDots short way with
        blocked | ⟨_, _, same⟩
      · exact Or.inr blocked
      · have restart : relocate source target (if isRooted linked then [] else start) =
            if isRooted linked then [] else relocate source target start := by
          rw [apply_ite (relocate source target), displaced.beside.relocate_nil]
        rw [Disk.approach, if_neg noDot, if_neg noDots, if_neg short]
        simp only [same, there, somewhere]
        have behind := ih (not_prefix_restart outTarget) found
        simp only [dite_eq_ite, restart] at behind
        exact behind

end Displaced

/-! ## The last step -/

/-- A step that leads to a name and fits on a disk. -/
def IsName (step : String) : Prop := step ≠ "." ∧ step ≠ ".." ∧ step.utf8ByteSize ≤ maxName

/-- A last step leads to the place of its name, unless a link there is followed. -/
theorem walk_last {name : String} {followLast : Bool} (isName : IsName name) (links : Nat)
    (stays : followLast = true → ∀ t, d.look (p ++ [name]) ≠ some (.link t)) :
    d.walk followLast links p [name] = .ok (p ++ [name]) := by
  obtain ⟨noDot, noDots, short⟩ := isName
  rw [walk, if_neg noDot, if_neg noDots, if_neg (Nat.not_lt.mpr short)]
  cases found : d.look (p ++ [name]) with
  | none => simp only [found, List.isEmpty_nil, if_true]
  | some node =>
      cases node with
      | directory => simp only [found, walk]
      | file _ => simp only [found, List.isEmpty_nil, if_true]
      | link t =>
          cases followLast with
          | false => simp only [found, List.isEmpty_nil, Bool.not_false, Bool.and_self, if_true]
          | true => exact absurd found (stays rfl t)

/-- A step into a directory leads on. -/
theorem walk_through {name : String} {followLast : Bool} {rest : List String} (isName : IsName name)
    (links : Nat) (there : d.look (p ++ [name]) = some .directory) :
    d.walk followLast links p (name :: rest) = d.walk followLast links (p ++ [name]) rest := by
  obtain ⟨noDot, noDots, short⟩ := isName
  rw [walk, if_neg noDot, if_neg noDots, if_neg (Nat.not_lt.mpr short)]
  simp only [there]

/-- On the way as well. -/
theorem approach_through {name : String} {rest : List String} (isName : IsName name) (links : Nat)
    (there : d.look (p ++ [name]) = some .directory) :
    d.approach links p (name :: rest) = d.approach links (p ++ [name]) rest := by
  obtain ⟨noDot, noDots, short⟩ := isName
  rw [approach, if_neg noDot, if_neg noDots, if_neg (Nat.not_lt.mpr short)]
  simp only [there]

/-- No step leads on from a file. -/
theorem walk_file {name : String} {followLast : Bool} {rest : List String} {c : Content}
    (isName : IsName name) (links : Nat) (more : rest ≠ [])
    (there : d.look (p ++ [name]) = some (.file c)) :
    d.walk followLast links p (name :: rest) = .error .notDirectory := by
  obtain ⟨noDot, noDots, short⟩ := isName
  rw [walk, if_neg noDot, if_neg noDots, if_neg (Nat.not_lt.mpr short)]
  simp [there, more]

/-- A link at the end is followed. -/
theorem walk_linked {name t : String} (isName : IsName name) (links : Nat)
    (there : d.look (p ++ [name]) = some (.link t)) (somewhere : ¬t.isEmpty = true) :
    d.walk true (links + 1) p [name] =
      d.walk true links (if isRooted t then [] else p) (stepsOf t) := by
  obtain ⟨noDot, noDots, short⟩ := isName
  rw [walk, if_neg noDot, if_neg noDots, if_neg (Nat.not_lt.mpr short)]
  simp [there, somewhere]

/-! ## Whole paths -/

/-- A path that can be followed at all. -/
structure Admits (path : String) : Prop where
  filled : ¬path.isEmpty = true
  noNul : ¬path.toList.contains '\x00' = true
  short : path.utf8ByteSize < maxPath

theorem admits_of_resolve {followLast : Bool} {path : String}
    (found : d.resolve followLast path = .ok p) : Admits path := by
  unfold resolve at found
  split at found
  · cases found
  · next filled =>
    split at found
    · cases found
    · next noNul =>
      split at found
      · cases found
      · next short =>
        exact ⟨filled, noNul, Nat.lt_of_not_le short⟩

/-- Where a path starts from. -/
def origin (d : Disk) (path : String) : Place := if isRooted path then [] else d.here

theorem resolve_of_admits {path : String} (admits : Admits path) (d : Disk) (followLast : Bool) :
    d.resolve followLast path = d.walk followLast maxLinks (d.origin path) (stepsOf path) := by
  rw [resolve, if_neg admits.filled, if_neg admits.noNul,
    if_neg (Nat.not_le_of_lt admits.short)]
  rfl

theorem Displaced.origin (displaced : Displaced source target d d') (path : String) :
    d'.origin path = relocate source target (d.origin path) := by
  unfold Disk.origin
  rw [apply_ite (relocate source target), displaced.beside.relocate_nil, displaced.here]

/-- A file in the root is read through its name. -/
theorem readText_root {path name text : String} (admits : Admits path)
    (rooted : isRooted path = true) (steps : stepsOf path = [name]) (isName : IsName name)
    (there : d.look [name] = some (.file (.text text))) : d.readText path = .ok text := by
  have last : d.walk true maxLinks [] [name] = .ok [name] := by
    refine walk_last (p := []) isName _ fun _ t => ?_
    rw [List.nil_append, there]
    exact fun same => by cases same
  rw [readText, status, resolve_of_admits admits, origin, if_pos rooted, steps, last]
  simp only [bind, Except.bind, there]
  rfl

/-- The path leads to its last steps behind some others, on whatever disk it is followed. -/
def Leads (path : String) (front last : List String) : Prop :=
  ∀ (d : Disk) (followLast : Bool),
    d.resolve followLast path =
      (d.approach maxLinks (d.origin path) front).bind fun (links, p) =>
        d.walk followLast links p last

theorem leads_of_steps {path : String} {front last : List String} (admits : Admits path)
    (steps : stepsOf path = front ++ last) (more : last ≠ []) : Leads path front last := by
  intro d followLast
  rw [resolve_of_admits admits, steps, walk_append _ _ _ _ _ more]

namespace Leads

variable {path name : String} {front last : List String} {links : Nat}

theorem resolve_last (leads : Leads path front [name]) (isName : IsName name) {followLast : Bool}
    (reached : d.approach maxLinks (d.origin path) front = .ok (links, p))
    (stays : followLast = true → ∀ t, d.look (p ++ [name]) ≠ some (.link t)) :
    d.resolve followLast path = .ok (p ++ [name]) := by
  rw [leads, reached]
  exact walk_last isName links stays

theorem resolve_blocked (leads : Leads path front last) (followLast : Bool) {fault : Fault}
    (blocked : d.approach maxLinks (d.origin path) front = .error fault) :
    d.resolve followLast path = .error fault := by
  rw [leads, blocked]
  rfl

theorem status_blocked (leads : Leads path front last) {fault : Fault}
    (blocked : d.approach maxLinks (d.origin path) front = .error fault) :
    d.status path = .error fault := by
  rw [status, leads.resolve_blocked true blocked]
  rfl

theorem linkStatus_blocked (leads : Leads path front last) {fault : Fault}
    (blocked : d.approach maxLinks (d.origin path) front = .error fault) :
    d.linkStatus path = .error fault := by
  rw [linkStatus, leads.resolve_blocked false blocked]
  rfl

/-- What is no link is found at the end of the path. -/
theorem status_found (leads : Leads path front [name]) (isName : IsName name)
    (reached : d.approach maxLinks (d.origin path) front = .ok (links, p)) {n : Node}
    (there : d.look (p ++ [name]) = some n) (noLink : ∀ t, n ≠ .link t) :
    d.status path = .ok n := by
  have stays (t : String) : d.look (p ++ [name]) ≠ some (.link t) := by
    rw [there]
    exact fun same => noLink t (Option.some.inj same)
  rw [status, leads.resolve_last isName reached fun _ => stays]
  simp only [bind, Except.bind, there]
  rfl

/-- What stands at the end of the path, be it a link, or nothing. -/
theorem linkStatus_reached (leads : Leads path front [name]) (isName : IsName name)
    (reached : d.approach maxLinks (d.origin path) front = .ok (links, p)) :
    d.linkStatus path = (d.look (p ++ [name])).elim (.error .notFound) .ok := by
  have last : d.resolve false path = .ok (p ++ [name]) :=
    leads.resolve_last isName reached nofun
  rw [linkStatus, last]
  simp only [bind, Except.bind]
  cases d.look (p ++ [name]) <;> rfl

/-- What a path leads to stands behind the way to it. -/
theorem exists_of_linkStatus (leads : Leads path front [name]) (isName : IsName name) {n : Node}
    (found : d.linkStatus path = .ok n) :
    ∃ links p, d.approach maxLinks (d.origin path) front = .ok (links, p) ∧
      d.look (p ++ [name]) = some n := by
  cases reached : d.approach maxLinks (d.origin path) front with
  | error fault =>
      rw [leads.linkStatus_blocked reached] at found
      cases found
  | ok reach =>
      obtain ⟨links, p⟩ := reach
      rw [leads.linkStatus_reached isName reached] at found
      cases there : d.look (p ++ [name]) with
      | none =>
          rw [there] at found
          cases found
      | some m =>
          rw [there] at found
          exact ⟨links, p, rfl, by rw [there, Except.ok.inj found]⟩

end Leads

/-- Where no link stands at the end of a path it makes no difference whether one is followed. -/
theorem walk_follow {links : Nat} {start : Place} {steps : List String}
    (found : d.walk false links start steps = .ok p) (noLink : ∀ t, d.look p ≠ some (.link t)) :
    d.walk true links start steps = .ok p := by
  fun_induction walk d false links start steps with
  | case1 links start =>
      rw [walk]
      exact found
  | case2 links start rest ih =>
      rw [walk, if_pos rfl]
      exact ih found
  | case3 links start rest noDot ih =>
      rw [walk, if_neg noDot, if_pos rfl]
      exact ih found
  | case4 | case6 | case9 | case11 | case12 => cases found
  | case5 links start step rest noDot noDots short next nothing last =>
      rw [walk, if_neg noDot, if_neg noDots, if_neg short]
      simp only [next] at nothing
      simp only [nothing, last]
      exact found
  | case7 links start step rest noDot noDots short next there ih =>
      rw [walk, if_neg noDot, if_neg noDots, if_neg short]
      simp only [next] at there
      simp only [there]
      exact ih found
  | case8 links start step rest noDot noDots short next content there last =>
      rw [walk, if_neg noDot, if_neg noDots, if_neg short]
      simp only [next] at there
      simp only [there, last]
      exact found
  | case10 links start step rest noDot noDots short next linked there last =>
      obtain rfl := Except.ok.inj found
      exact absurd there (noLink linked)
  | case13 start step rest noDot noDots short next linked there follows somewhere links ih =>
      have more : rest.isEmpty = false := by simpa using follows
      rw [walk, if_neg noDot, if_neg noDots, if_neg short]
      simp only [next] at there
      simp only [there, more, somewhere]
      exact ih found

/-- What stands at the end of a path and is no link is what the path leads to. -/
theorem status_of_linkStatus {path : String} {n : Node} (found : d.linkStatus path = .ok n)
    (noLink : ∀ t, n ≠ .link t) : d.status path = .ok n := by
  obtain ⟨place, resolved, there⟩ := Success.bind_eq_ok.mp found
  split at there
  · next m look =>
    obtain rfl := Success.pure_eq_ok.mp there
    have noLink' (t : String) : d.look place ≠ some (.link t) := by
      rw [look]
      exact fun same => noLink t (Option.some.inj same)
    have admits := admits_of_resolve resolved
    rw [resolve_of_admits admits] at resolved
    rw [status, resolve_of_admits admits, walk_follow resolved noLink']
    simp only [bind, Except.bind, look]
    rfl
  · cases there

/-! ## Written files -/

def IsSolid (d : Disk) (p : Place) : Prop := ∀ q, q <+: p → d.look q = some .directory

theorem isSolid_root (d : Disk) : d.IsSolid [] := by
  intro q below
  rw [List.prefix_nil.mp below]
  rfl

theorem IsSolid.concat {name : String} (solid : d.IsSolid p)
    (there : d.look (p ++ [name]) = some .directory) : d.IsSolid (p ++ [name]) := by
  intro q below
  rcases List.prefix_concat_iff.mp below with rfl | before
  · exact there
  · exact solid q before

/-- A path whose links are all followed never ends at a link. -/
theorem noLink_of_walk {links : Nat} {start : Place} {steps : List String}
    (solid : d.IsSolid start) (found : d.walk true links start steps = .ok p) (t : String) :
    d.look p ≠ some (.link t) := by
  fun_induction walk d true links start steps with
  | case1 links start =>
      rw [← Except.ok.inj found, solid _ (List.prefix_refl _)]
      exact fun same => by cases same
  | case2 links start rest ih => exact ih solid found
  | case3 links start rest noDot ih =>
      exact ih (fun q below => solid q (below.trans (List.dropLast_prefix _))) found
  | case4 | case6 | case9 | case11 | case12 => cases found
  | case5 links start step rest noDot noDots short next nothing last =>
      rw [← Except.ok.inj found]
      exact fun link => by cases nothing.symm.trans link
  | case7 links start step rest noDot noDots short next there ih =>
      exact ih (solid.concat there) found
  | case8 links start step rest noDot noDots short next content there last =>
      rw [← Except.ok.inj found]
      exact fun link => by cases there.symm.trans link
  | case10 links start step rest noDot noDots short next target there stays => simp at stays
  | case13 start step rest noDot noDots short next target there follows somewhere links ih =>
      refine ih ?_ found
      split
      · exact isSolid_root d
      · exact solid

/-- A file is written where nothing or a file stood. -/
theorem exists_put_of_writeText {path text : String} (solid : d.IsSolid (d.origin path))
    (written : d.writeText path text = .ok d') :
    ∃ p, d.resolve true path = .ok p ∧ p ≠ [] ∧ ¬IsWay (d.look p) ∧
      d' = d.put p (.file (.text text)) := by
  obtain ⟨p, found, written⟩ := Success.bind_eq_ok.mp written
  have noLink : ∀ t, d.look p ≠ some (.link t) := by
    rw [resolve_of_admits (admits_of_resolve found)] at found
    exact noLink_of_walk solid found
  split at written
  · cases written
  · next noDirectory =>
    refine ⟨p, found, ?_, ?_, (Except.ok.inj written).symm⟩
    · rintro rfl
      exact noDirectory rfl
    · intro way
      cases there : d.look p with
      | none =>
          rw [there] at way
          exact way
      | some node =>
          cases node with
          | directory => exact noDirectory there
          | file _ =>
              rw [there] at way
              exact way
          | link t => exact noLink t there

/-- A file that is written where no way led through leaves every way as it was. -/
theorem look_put_of_way {c : Content} (noWay : ¬IsWay (d.look p)) (way : IsWay (d.look q)) :
    (d.put p (.file c)).look q = d.look q := by
  refine look_put_other _ _ ?_
  rintro rfl
  exact noWay way

namespace Displaced

variable (displaced : Displaced source target d d')
include displaced

/-- Writing such a file blocks no way. -/
theorem put {c : Content} (notRoot : p ≠ []) (noWay : ¬IsWay (d'.look p)) :
    Displaced source target d (d'.put p (.file c)) where
  beside := displaced.beside
  here := displaced.here
  kept q outSource outTarget way := by
    have same := displaced.kept q outSource outTarget way
    rw [look_put_of_way noWay (same ▸ way), same]
  moved rest way := by
    have same := displaced.moved rest way
    rw [look_put_of_way noWay (same ▸ way), same]
  source := by
    intro way
    by_cases here : source = p
    · rw [here, look_put_same _ _ notRoot] at way
      exact way
    · rw [look_put_other _ _ here] at way
      exact displaced.source way
  target before := by
    intro way
    by_cases here : target = p
    · rw [here, look_put_same _ _ notRoot] at way
      exact way
    · rw [look_put_other _ _ here] at way
      exact displaced.target before way

/-- A place behind directories is behind directories under its new name. -/
theorem isSolid (outTarget : ¬target <+: p) (solid : d.IsSolid p) :
    d'.IsSolid (relocate source target p) := by
  have kept {q : Place} (outSource : ¬source <+: q) (below : q <+: p) :
      d'.look q = some .directory := by
    have there := solid q below
    rw [displaced.kept q outSource (fun inTarget => outTarget (inTarget.trans below))
      (there ▸ trivial), there]
  rcases cases_relocate source target p with ⟨rest, rfl, moved⟩ | ⟨outSource, same⟩
  · rw [moved]
    intro q below
    by_cases inTarget : target <+: q
    · obtain ⟨r, rfl⟩ := inTarget
      have inRest : r <+: rest := (List.prefix_append_right_inj target).mp below
      have there := solid (source ++ r) ((List.prefix_append_right_inj source).mpr inRest)
      rw [displaced.moved r (there ▸ trivial), there]
    · -- in front of the new name stands the directory that the old one is in as well
      have before := displaced.beside.symm.prefix_dropLast
        ((List.prefix_or_prefix_of_prefix below (List.prefix_append target rest)).resolve_right
          inTarget) inTarget
      rw [← displaced.beside.dropLast_eq] at before
      refine kept (fun inSource => ?_) ?_
      · exact displaced.beside.not_prefix_dropLast (inSource.trans before)
      · exact before.trans ((List.dropLast_prefix source).trans (List.prefix_append source rest))
  · rw [same]
    exact fun q below => kept (fun inSource => outSource (inSource.trans below)) below

end Displaced

end LayeredConfig.Disk
