import LayeredConfig.DataDirectory
import LayeredConfig.Disk.Access
import LayeredConfig.Proofs.Text.Cut

/-!
# Paths as they are followed

A path from the root stays one when it is cleaned and when a step is put behind
it.  The steps to something inside a directory are those to the directory and
one more.

Main statements: `Path.exists_steps_inside`, `Path.isRooted_clean`.
-/

namespace LayeredConfig

open Text

namespace Path

/-! ## Steps -/

/-- What stands in front of the separator gives its steps, and the name behind it one more. -/
theorem stepsOf_separated {name : String} (filled : name ≠ "") (free : '/' ∉ name.toList)
    (before : List Char) : Disk.stepsOf (String.ofList (before ++ '/' :: name.toList)) =
      ((pieces '/' before).filter (· ≠ [])).map String.ofList ++ [name] := by
  have chars : name.toList ≠ [] := fun none => filled (String.toList_eq_nil_iff.mp none)
  have noEnd : (before ++ '/' :: name.toList).getLast? ≠ some '/' := by
    rw [List.append_cons, List.getLast?_append, List.getLast?_eq_some_getLast chars,
      Option.some_or]
    exact fun ends => free (Option.some.inj ends ▸ List.getLast_mem chars)
  rw [Disk.stepsOf, String.toList_ofList]
  simp only [noEnd, if_false]
  rw [pieces_append, pieces_free free]
  simp [chars]

/-- A name is put behind what ends in a slash, whatever the name is. -/
theorem exists_inside_eq (directory : String) :
    ∃ before : List Char, ∀ name : String,
      inside directory name = String.ofList (before ++ '/' :: name.toList) := by
  by_cases ends : directory.toList.getLast? = some '/'
  · obtain ⟨before, whole⟩ := List.getLast?_eq_some_iff.mp ends
    refine ⟨before, fun name => ?_⟩
    rw [inside, if_pos ends, ← String.toList_inj, String.toList_append, String.toList_ofList,
      whole, List.append_assoc]
    rfl
  · refine ⟨directory.toList, fun name => ?_⟩
    rw [inside, if_neg ends, ← String.toList_inj, String.toList_append, String.toList_append,
      String.toList_ofList]
    simp

/-- The steps to something inside a directory: the same as to the directory, and its name. -/
theorem exists_steps_inside (directory : String) :
    ∃ front, ∀ name : String, name ≠ "" → '/' ∉ name.toList →
      Disk.stepsOf (inside directory name) = front ++ [name] := by
  obtain ⟨before, whole⟩ := exists_inside_eq directory
  refine ⟨((pieces '/' before).filter (· ≠ [])).map String.ofList, fun name filled free => ?_⟩
  rw [whole]
  exact stepsOf_separated filled free before

/-- A path that ends in a name is taken for a directory as it stands. -/
theorem stepsOf_inside_inside {directory name inner : String} (filled : name ≠ "")
    (free : '/' ∉ name.toList) (filled' : inner ≠ "") (free' : '/' ∉ inner.toList) :
    Disk.stepsOf (inside (inside directory name) inner) =
      Disk.stepsOf (inside directory name) ++ [inner] := by
  obtain ⟨before, whole⟩ := exists_inside_eq directory
  have chars : name.toList ≠ [] := fun none => filled (String.toList_eq_nil_iff.mp none)
  have noEnd : (inside directory name).toList.getLast? ≠ some '/' := by
    rw [whole, String.toList_ofList, List.append_cons, List.getLast?_append,
      List.getLast?_eq_some_getLast chars, Option.some_or]
    exact fun ends => free (Option.some.inj ends ▸ List.getLast_mem chars)
  have joined : inside (inside directory name) inner =
      String.ofList ((inside directory name).toList ++ '/' :: inner.toList) := by
    rw [inside, if_neg noEnd, ← String.toList_inj, String.toList_append, String.toList_append,
      String.toList_ofList]
    simp
  rw [joined, stepsOf_separated filled' free']
  congr 1
  rw [Disk.stepsOf]
  simp only [noEnd, if_false]

/-! ## The root -/

theorem isRooted_iff {text : String} :
    Disk.isRooted text = true ↔ ∃ rest, text.toList = '/' :: rest := by
  unfold Disk.isRooted startsWith
  cases shape : text.toList with
  | nil => simp [stripStart]
  | cons c rest =>
      by_cases slash : '/' = c
      · subst slash
        simp [stripStart]
      · simp [stripStart, slash, Ne.symm slash]

theorem isRooted_append {text : String} (rooted : Disk.isRooted text = true) (more : String) :
    Disk.isRooted (text ++ more) = true := by
  obtain ⟨rest, shape⟩ := isRooted_iff.mp rooted
  rw [isRooted_iff, String.toList_append, shape]
  exact ⟨_, rfl⟩

theorem isRooted_text {p : Path} (rooted : p.rooted = true) : Disk.isRooted p.text = true := by
  rw [text, if_pos rooted]
  exact isRooted_append rfl _

theorem isRooted_clean {raw : String} (rooted : Disk.isRooted raw = true) :
    Disk.isRooted (clean raw) = true := by
  obtain ⟨rest, shape⟩ := isRooted_iff.mp rooted
  obtain ⟨rest', front⟩ := exists_trim_cons (c := '/') rfl rest
  rw [← shape] at front
  refine isRooted_text ?_
  rw [fold, read, String.toList_ofList, front]
  rfl

theorem isRooted_inside {directory : String} (rooted : Disk.isRooted directory = true)
    (name : String) : Disk.isRooted (inside directory name) = true := by
  unfold inside
  split
  · exact isRooted_append rooted name
  · exact isRooted_append (isRooted_append rooted "/") name

theorem isRooted_ofList (cs : List Char) :
    Disk.isRooted (String.ofList cs) = decide (cs.head? = some '/') := by
  rw [Bool.eq_iff_iff, isRooted_iff, String.toList_ofList, decide_eq_true_eq]
  cases cs <;> simp

/-- Whether a path comes from the root does not depend on its last name. -/
theorem isRooted_inside_congr (directory name name' : String) :
    Disk.isRooted (inside directory name) = Disk.isRooted (inside directory name') := by
  obtain ⟨before, whole⟩ := exists_inside_eq directory
  rw [whole, whole, isRooted_ofList, isRooted_ofList]
  cases before <;> rfl

theorem isRooted_inside_inside (directory name inner : String) :
    Disk.isRooted (inside (inside directory name) inner) =
      Disk.isRooted (inside directory name) := by
  obtain ⟨before, whole⟩ := exists_inside_eq directory
  obtain ⟨more, joined⟩ : ∃ more : List Char, inside (inside directory name) inner =
      String.ofList ((inside directory name).toList ++ more) := by
    rw [inside]
    split
    · exact ⟨inner.toList, by simp⟩
    · exact ⟨'/' :: inner.toList, by simp [← String.toList_inj]⟩
  rw [joined, whole, isRooted_ofList, isRooted_ofList, String.toList_ofList]
  cases before <;> rfl

end Path

theorem Path.fold_under_rooted (here : Place) (p : Path) :
    (fold (under (DataDirectory.pathOf here) p)).rooted = true := by
  unfold fold under
  split
  · next rooted => exact rooted
  · rfl

namespace DataDirectory

variable {raw path : String}

theorem rooted_seen (here : Place) (raw : String) : (seen here raw).rooted = true :=
  Path.fold_under_rooted here _

/-- From the root a path is seen in the same way everywhere. -/
theorem seen_of_rooted (rooted : (Path.read (String.ofList (trim raw.toList))).rooted = true)
    (here base : Place) : seen here raw = seen base raw := by
  unfold seen Path.under
  rw [rooted]
  rfl

/-- What is found was seen from the working directory, or from anywhere if it starts at the root. -/
theorem eq_seen_of_absolute {found : Except Disk.Fault Place}
    (named : absolute found raw = .ok path) {here : Place}
    (told : ∀ base, found = .ok base → base = here) : path = (seen here raw).text := by
  unfold absolute at named
  simp only at named
  split at named
  · cases named
  · split at named
    next rooted =>
      rw [← Except.ok.inj named, seen_of_rooted rooted [] here]
    next =>
      split at named
      · rw [← Except.ok.inj named, told _ rfl]
      · cases named

theorem isRooted_absolute {found : Except Disk.Fault Place}
    (named : absolute found raw = .ok path) : Disk.isRooted path = true := by
  obtain ⟨here, told⟩ : ∃ here, ∀ base, found = .ok base → base = here := by
    cases found with
    | ok here => exact ⟨here, fun _ same => (Except.ok.inj same).symm⟩
    | error _ => exact ⟨[], nofun⟩
  rw [eq_seen_of_absolute named told]
  exact Path.isRooted_text (rooted_seen here raw)

end DataDirectory

end LayeredConfig
