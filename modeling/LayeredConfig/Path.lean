import LayeredConfig.Text.Cut

/-!
# Paths

A path is a place to start, the root or the working directory, and the steps
from there.  A step up (`..`) is a step like any other until `Path.fold` takes
it together with the step in front of it.

Main statements: a folded path has its steps up in front (`fold_steps`), and at
the root it has none (`fold_rooted`).
-/

namespace LayeredConfig

open Text

/-- A start and the steps from there. -/
structure Path where
  rooted : Bool
  steps : List String
  deriving DecidableEq, Repr

namespace Path

def up : String := ".."

/-- The path in a text: empty steps and steps to the directory itself count for nothing. -/
def read (text : String) : Path :=
  let cs := text.toList
  { rooted := startsWith ['/'] cs
    steps := (pieces '/' cs |>.filter fun step => step ≠ [] ∧ step ≠ ['.']).map String.ofList }

/-- The text of a path; no step at all is the directory itself. -/
def text (p : Path) : String :=
  if p.rooted then "/" ++ "/".intercalate p.steps
  else if p.steps.isEmpty then "."
  else "/".intercalate p.steps

/-- One more step on folded steps, the last one first.  A step up takes back the step in front of
it; at the root it leads nowhere. -/
def foldStep (rooted : Bool) (reversed : List String) (step : String) : List String :=
  if step = up then
    match reversed with
    | [] => if rooted then [] else [up]
    | last :: before => if last = up then up :: last :: before else before
  else step :: reversed

/-- Every step up taken together with the step in front of it. -/
def fold (p : Path) : Path :=
  { p with steps := (p.steps.foldl (foldStep p.rooted) []).reverse }

/-- The cleaned form of a path in a text with blanks around it. -/
def clean (raw : String) : String :=
  (fold (read (String.ofList (trim raw.toList)))).text

def child (p : Path) (step : String) : Path :=
  { p with steps := p.steps ++ [step] }

/-- The text of a path with one more step; the text is kept as it is. -/
def inside (directory name : String) : String :=
  if directory.toList.getLast? = some '/' then directory ++ name else directory ++ "/" ++ name

def under (directory p : Path) : Path :=
  if p.rooted then p else { directory with steps := directory.steps ++ p.steps }

/-- The last step of a path, unless it leads up. -/
def lastName (text : String) : Option String :=
  (read text).steps.getLast?.filter (· ≠ up)

/-- What stands behind the last dot of a name; a dot in front is part of the name. -/
def extension (name : String) : String :=
  match cutOnce '.' name.toList.reverse with
  | some (after, _ :: _) => String.ofList after.reverse
  | _ => ""

/-- Steps that lead up before they lead down. -/
def UpFirst (steps : List String) : Prop :=
  ∃ count down, steps = List.replicate count up ++ down ∧ up ∉ down

theorem foldStep_upFirst {rooted : Bool} {reversed : List String} (step : String)
    (given : UpFirst reversed.reverse) : UpFirst (foldStep rooted reversed step).reverse := by
  obtain ⟨count, down, shape, free⟩ := given
  unfold foldStep
  split
  next isUp =>
    subst isUp
    cases reversed with
    | nil =>
        cases rooted
        · exact ⟨1, [], by simp, by simp⟩
        · exact ⟨0, [], by simp, by simp⟩
    | cons last before =>
        simp only [List.reverse_cons] at shape
        by_cases lastUp : last = up
        · simp only [lastUp, if_true, List.reverse_cons]
          have none : down = [] := by
            cases back : down.reverse with
            | nil => simpa using back
            | cons d rest =>
                have split : down = rest.reverse ++ [d] := by
                  rw [← List.reverse_reverse down, back]; simp
                rw [split, ← List.append_assoc] at shape
                have same := List.append_inj_right' shape rfl
                simp only [List.cons.injEq, and_true] at same
                exact absurd (by rw [split, ← same, lastUp]; simp) free
          subst none
          rw [lastUp, List.append_nil] at shape
          refine ⟨count + 1, [], ?_, by simp⟩
          rw [shape, List.append_nil, ← List.replicate_succ']
        · simp only [lastUp, if_false]
          cases back : down.reverse with
          | nil =>
              have none : down = [] := by simpa using back
              subst none
              have member : last ∈ List.replicate count up := by
                rw [List.append_nil] at shape
                rw [← shape]
                simp
              exact absurd (List.eq_of_mem_replicate member) lastUp
          | cons d rest =>
              have split : down = rest.reverse ++ [d] := by
                rw [← List.reverse_reverse down, back]; simp
              rw [split, ← List.append_assoc] at shape
              refine ⟨count, rest.reverse, List.append_inj_left' shape rfl, ?_⟩
              intro member
              exact free (by rw [split]; simp [List.mem_reverse.1 member])
  next notUp =>
    refine ⟨count, down ++ [step], ?_, ?_⟩
    · simp [shape]
    · intro member
      rcases List.mem_append.1 member with old | new
      · exact free old
      · exact notUp (List.mem_singleton.1 new).symm

theorem fold_steps (p : Path) : UpFirst p.fold.steps := by
  have general : ∀ (steps reversed : List String), UpFirst reversed.reverse →
      UpFirst (steps.foldl (foldStep p.rooted) reversed).reverse := by
    intro steps
    induction steps with
    | nil => exact fun _ given => given
    | cons step rest ih => exact fun _ given => ih _ (foldStep_upFirst step given)
  exact general p.steps [] ⟨0, [], rfl, by simp⟩

theorem fold_rooted (p : Path) (rooted : p.rooted = true) : up ∉ p.fold.steps := by
  have general : ∀ (steps reversed : List String), up ∉ reversed →
      up ∉ steps.foldl (foldStep true) reversed := by
    intro steps
    induction steps with
    | nil => exact fun _ given => given
    | cons step rest ih =>
        intro reversed given
        apply ih
        unfold foldStep
        split
        next isUp =>
          cases reversed with
          | nil => simp
          | cons last before =>
              have : last ≠ up := fun same => given (by simp [same])
              simp only [this, if_false]
              exact fun member => given (List.mem_cons_of_mem _ member)
        next notUp =>
          intro member
          rcases List.mem_cons.1 member with new | old
          · exact notUp new.symm
          · exact given old
  simp only [fold, rooted, List.mem_reverse]
  exact general p.steps [] (by simp)

end Path

end LayeredConfig
