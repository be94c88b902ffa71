import LayeredConfig.Disk.Access

/-!
# Disks that differ in one file

Following a path asks of a file only whether it is one.  So disks that differ in
the text of one file lead every path to the same place, and what stands there
differs only if it is that file.

Main statements: `Disk.readText_put`, `Disk.writeText_cases`.
-/

namespace LayeredConfig.Disk

variable {d d' : Disk}

/-- The same stands everywhere on both disks, up to what the files hold. -/
structure Alike (d d' : Disk) : Prop where
  here : d'.here = d.here
  look : ∀ p, d'.look p = d.look p ∨
    ∃ before after, d.look p = some (.file before) ∧ d'.look p = some (.file after)

theorem alike_put (d : Disk) {p : Place} (notRoot : p ≠ []) (a b : Content) :
    Alike (d.put p (.file a)) (d.put p (.file b)) where
  here := rfl
  look := by
    intro q
    by_cases same : q = p
    · subst same
      rw [look_put_same d _ notRoot, look_put_same d _ notRoot]
      exact Or.inr ⟨a, b, rfl, rfl⟩
    · rw [look_put_other d _ same, look_put_other d _ same]
      exact Or.inl rfl

theorem Alike.look_eq (alike : Alike d d') {p : Place} {n : Option Node} (found : d.look p = n)
    (noFile : ∀ c, n ≠ some (.file c)) : d'.look p = n := by
  rcases alike.look p with same | ⟨before, _, wasFile, _⟩
  · rw [same, found]
  · rw [found] at wasFile
    exact absurd wasFile (noFile before)

theorem Alike.look_file (alike : Alike d d') {p : Place} {c : Content}
    (found : d.look p = some (.file c)) : ∃ c', d'.look p = some (.file c') := by
  rcases alike.look p with same | ⟨_, after, _, isFile⟩
  · exact ⟨c, same.trans found⟩
  · exact ⟨after, isFile⟩

/-- A path leads to the same place on both disks. -/
theorem walk_congr (alike : Alike d d') (followLast : Bool) (links : Nat) (start : Place)
    (steps : List String) :
    d'.walk followLast links start steps = d.walk followLast links start steps := by
  -- The cases are those of the walk on the first disk; what it finds, the second one holds too,
  -- but for the content of a file, which no step looks at.
  fun_induction walk d followLast links start steps with
  | case1 => rw [walk]
  | case2 links start rest ih => rw [walk, if_pos rfl, ih]
  | case3 links start rest _ ih => rw [walk, if_neg (by decide), if_pos rfl, ih]
  | case4 links start step rest noDot noDots long =>
      rw [walk, if_neg noDot, if_neg noDots, if_pos long]
  | case5 links start step rest noDot noDots short next found last
  | case6 links start step rest noDot noDots short next found last =>
      have nothing : d'.look (start ++ [step]) = none := alike.look_eq found nofun
      rw [walk, if_neg noDot, if_neg noDots, if_neg short]
      simp only [nothing, last]
      rfl
  | case7 links start step rest noDot noDots short next found ih =>
      have directory : d'.look (start ++ [step]) = some .directory := alike.look_eq found nofun
      rw [walk, if_neg noDot, if_neg noDots, if_neg short]
      simp only [directory]
      exact ih
  | case8 links start step rest noDot noDots short next content found last
  | case9 links start step rest noDot noDots short next content found last =>
      obtain ⟨other, file⟩ : ∃ c, d'.look (start ++ [step]) = some (.file c) :=
        alike.look_file found
      rw [walk, if_neg noDot, if_neg noDots, if_neg short]
      simp only [file, last]
      rfl
  | case10 links start step rest noDot noDots short next target found stays =>
      have link : d'.look (start ++ [step]) = some (.link target) := alike.look_eq found nofun
      rw [walk, if_neg noDot, if_neg noDots, if_neg short]
      simp only [link, stays]
      rfl
  | case11 links start step rest noDot noDots short next target found follows nowhere =>
      have link : d'.look (start ++ [step]) = some (.link target) := alike.look_eq found nofun
      rw [walk, if_neg noDot, if_neg noDots, if_neg short]
      simp only [link, follows, nowhere]
      rfl
  | case12 start step rest noDot noDots short next target found follows somewhere =>
      have link : d'.look (start ++ [step]) = some (.link target) := alike.look_eq found nofun
      rw [walk, if_neg noDot, if_neg noDots, if_neg short]
      simp only [link, follows, somewhere]
      rfl
  | case13 start step rest noDot noDots short next target found follows somewhere links ih =>
      have link : d'.look (start ++ [step]) = some (.link target) := alike.look_eq found nofun
      rw [walk, if_neg noDot, if_neg noDots, if_neg short]
      simp only [link, follows, somewhere]
      exact ih

theorem resolve_congr (alike : Alike d d') (followLast : Bool) (path : String) :
    d'.resolve followLast path = d.resolve followLast path := by
  unfold resolve
  rw [alike.here]
  simp only [walk_congr alike]

/-- What is read through a path is the same on both disks, unless it is the text of that file. -/
theorem readText_put (d : Disk) {p : Place} (notRoot : p ≠ []) (before after path : String) :
    (d.put p (.file (.text after))).readText path =
        (d.put p (.file (.text before))).readText path ∨
      (d.put p (.file (.text before))).readText path = .ok before ∧
        (d.put p (.file (.text after))).readText path = .ok after := by
  -- The path leads to one place on both disks; either it is that of the file or it is not.
  have leads := resolve_congr (alike_put d notRoot (.text before) (.text after)) true path
  unfold readText status
  rw [leads]
  cases (d.put p (.file (.text before))).resolve true path with
  | error fault => exact Or.inl rfl
  | ok place =>
      by_cases there : place = p
      · subst there
        refine Or.inr ⟨?_, ?_⟩
        · simp only [bind, Except.bind, look_put_same d _ notRoot]
          rfl
        · simp only [bind, Except.bind, look_put_same d _ notRoot]
          rfl
      · refine Or.inl ?_
        simp only [bind, Except.bind, look_put_other d _ there]

/-- Whether and where a file can be written does not depend on its text. -/
theorem writeText_cases (d : Disk) (path : String) :
    (∃ fault, ∀ text, d.writeText path text = .error fault) ∨
      ∃ p, p ≠ [] ∧ ∀ text, d.writeText path text = .ok (d.put p (.file (.text text))) := by
  unfold writeText
  cases d.resolve true path with
  | error fault => exact Or.inl ⟨fault, fun _ => rfl⟩
  | ok p =>
      by_cases directory : d.look p = some .directory
      · refine Or.inl ⟨.isDirectory, fun text => ?_⟩
        simp only [bind, Except.bind, directory]
      · refine Or.inr ⟨p, ?_, fun text => ?_⟩
        · rintro rfl
          exact directory rfl
        · simp only [bind, Except.bind]
          rfl

end LayeredConfig.Disk
