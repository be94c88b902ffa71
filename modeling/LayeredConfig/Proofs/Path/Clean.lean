import LayeredConfig.Proofs.Path
import Mathlib.Data.List.Flatten

/-!
# Cleaned paths

The text of a path is read back as the path, so what holds of the steps of a
folded path can be seen in its text: no empty step, no step to the directory
itself, and steps up in front of a path that does not come from the root, and
nowhere else.  A folded path leads from every directory to the same place.

Cleaning it again changes its text only if there are blanks around it.

Main statements: `Path.read_text`, `Path.follow_fold`, `Path.clean_text_fold_iff`,
`isClean_clean`.
-/

namespace LayeredConfig

open Text

namespace Path

/-! ## What a text of a path says -/

/-- What stands between slashes; in no text nothing does. -/
def between (cs : List Char) : List String :=
  if cs = [] then [] else (pieces '/' cs).map String.ofList

/-- The segments of a text, those behind the slash of the root if there is one. -/
def segments (text : String) : List String :=
  between ((stripStart ['/'] text.toList).getD text.toList)

/-- A cleaned path, as it is seen in its text. -/
structure IsClean (text : String) : Prop where
  filled : text ≠ ""
  noEmpty : "" ∉ segments text
  noSelf : "." ∈ segments text → text = "."
  upFirst : UpFirst (segments text)
  rootedNoUp : Disk.isRooted text = true → up ∉ segments text

/-- The place behind one segment.  Above the root there is nothing but the root. -/
def enter (p : Place) (segment : String) : Place :=
  if segment = "" ∨ segment = "." then p
  else if segment = up then p.dropLast
  else p ++ [segment]

/-- The place behind some segments. -/
def follow (p : Place) (segments : List String) : Place := segments.foldl enter p

/-- The place that a text names from a directory, segment by segment. -/
def walk (base : Place) (text : String) : Place :=
  follow (if Disk.isRooted text = true then [] else base)
    ((pieces '/' text.toList).map String.ofList)

/-- A step that leads somewhere. -/
structure IsStep (step : String) : Prop where
  filled : step ≠ ""
  noSelf : step ≠ "."
  free : '/' ∉ step.toList

/-! ## Steps and their text -/

variable {p : Path} {step : String} {steps : List String}

theorem IsStep.chars_ne_nil (isStep : IsStep step) : step.toList ≠ [] :=
  fun none => isStep.filled (String.toList_eq_nil_iff.mp none)

theorem IsStep.chars_ne_self (isStep : IsStep step) : step.toList ≠ ['.'] :=
  fun same => isStep.noSelf (String.toList_inj.mp same)

theorem rooted_read (text : String) : (read text).rooted = Disk.isRooted text := rfl

theorem rooted_fold (p : Path) : p.fold.rooted = p.rooted := rfl

theorem isStep_of_mem_read {text : String} (member : step ∈ (read text).steps) : IsStep step := by
  obtain ⟨piece, kept, rfl⟩ := List.mem_map.mp member
  obtain ⟨inPieces, counts⟩ := List.mem_filter.mp kept
  obtain ⟨filled, noSelf⟩ := of_decide_eq_true counts
  have chars : (String.ofList piece).toList = piece := String.toList_ofList
  refine ⟨fun none => filled ?_, fun same => noSelf ?_, ?_⟩
  · rw [← chars, none]
    rfl
  · rw [← chars, same]
    rfl
  · rw [chars]
    exact not_mem_of_mem_pieces inPieces

/-- The characters of steps with slashes between them. -/
theorem toList_joined (steps : List String) :
    ("/".intercalate steps).toList = joinWith '/' (steps.map String.toList) :=
  toList_intercalate '/' steps

theorem pieces_joined (each : ∀ step ∈ steps, IsStep step) (present : steps ≠ []) :
    pieces '/' (joinWith '/' (steps.map String.toList)) = steps.map String.toList := by
  refine pieces_joinWith (by simpa using present) fun part member => ?_
  obtain ⟨step, inSteps, rfl⟩ := List.mem_map.mp member
  exact (each step inSteps).free

/-- Steps do not start at the root. -/
theorem joined_ne_slash (each : ∀ step ∈ steps, IsStep step) (rest : List Char) :
    joinWith '/' (steps.map String.toList) ≠ '/' :: rest := by
  cases steps with
  | nil => exact nofun
  | cons first others =>
      have isStep := each first List.mem_cons_self
      rw [List.map_cons, joinWith_cons]
      obtain ⟨c, more, chars⟩ := List.exists_cons_of_ne_nil isStep.chars_ne_nil
      have free := isStep.free
      rw [chars] at free ⊢
      intro same
      exact free ((List.cons.inj same).1 ▸ List.mem_cons_self)

theorem toList_text_rooted (rooted : p.rooted = true) :
    p.text.toList = '/' :: joinWith '/' (p.steps.map String.toList) := by
  rw [text, if_pos rooted, String.toList_append, toList_joined]
  rfl

theorem toList_text_relative (relative : p.rooted = false) (present : p.steps ≠ []) :
    p.text.toList = joinWith '/' (p.steps.map String.toList) := by
  have some : ¬p.steps.isEmpty = true := fun none => present (List.isEmpty_iff.mp none)
  rw [text, relative, if_neg Bool.false_ne_true, if_neg some, toList_joined]

theorem text_of_nowhere (relative : p.rooted = false) (nowhere : p.steps = []) : p.text = "." := by
  rw [text, relative, nowhere]
  rfl

theorem isRooted_text_eq (each : ∀ step ∈ p.steps, IsStep step) :
    Disk.isRooted p.text = p.rooted := by
  cases rooted : p.rooted with
  | true => exact isRooted_text rooted
  | false =>
      rw [← Bool.not_eq_true, isRooted_iff]
      rintro ⟨rest, chars⟩
      by_cases nowhere : p.steps = []
      · rw [text_of_nowhere rooted nowhere] at chars
        cases chars
      · rw [toList_text_relative rooted nowhere] at chars
        exact joined_ne_slash each rest chars

/-- Steps are the parts between slashes that count. -/
theorem filter_steps (each : ∀ step ∈ steps, IsStep step) :
    ((steps.map String.toList).filter fun step => step ≠ [] ∧ step ≠ ['.']).map String.ofList =
      steps := by
  have kept : (steps.map String.toList).filter (fun step => step ≠ [] ∧ step ≠ ['.']) =
      steps.map String.toList := by
    rw [List.filter_eq_self, List.forall_mem_map]
    exact fun step member => decide_eq_true
      ⟨(each step member).chars_ne_nil, (each step member).chars_ne_self⟩
  have back : String.ofList ∘ String.toList = id := funext fun _ => String.ofList_toList
  rw [kept, List.map_map, back, List.map_id]

/-- The text of a path is read back as the path. -/
theorem read_text (each : ∀ step ∈ p.steps, IsStep step) : read p.text = p := by
  have start : (read p.text).rooted = p.rooted := isRooted_text_eq each
  have steps : (read p.text).steps = p.steps := by
    show ((pieces '/' p.text.toList).filter _).map String.ofList = p.steps
    cases rooted : p.rooted with
    | true =>
        rw [toList_text_rooted rooted, pieces, if_pos rfl]
        by_cases nowhere : p.steps = []
        · rw [nowhere]
          rfl
        · rw [pieces_joined each nowhere]
          exact filter_steps each
    | false =>
        by_cases nowhere : p.steps = []
        · rw [text_of_nowhere rooted nowhere, nowhere]
          rfl
        · rw [toList_text_relative rooted nowhere, pieces_joined each nowhere]
          exact filter_steps each
  cases p
  cases shape : read _
  rw [shape] at start steps
  cases start
  cases steps
  rfl

theorem between_joined (each : ∀ step ∈ steps, IsStep step) :
    between (joinWith '/' (steps.map String.toList)) = steps := by
  cases steps with
  | nil => rfl
  | cons first others =>
      have present : joinWith '/' ((first :: others).map String.toList) ≠ [] := by
        rw [List.map_cons, joinWith_cons]
        exact List.append_ne_nil_of_left_ne_nil (each first List.mem_cons_self).chars_ne_nil _
      have back : String.ofList ∘ String.toList = id := funext fun _ => String.ofList_toList
      rw [between, if_neg present, pieces_joined each (List.cons_ne_nil _ _), List.map_map, back,
        List.map_id]

/-- The segments of a text are the steps of the path, if it leads anywhere. -/
theorem segments_text (each : ∀ step ∈ p.steps, IsStep step)
    (somewhere : p.rooted = true ∨ p.steps ≠ []) : segments p.text = p.steps := by
  unfold segments
  cases rooted : p.rooted with
  | true =>
      have behind : stripStart ['/'] p.text.toList =
          some (joinWith '/' (p.steps.map String.toList)) :=
        stripStart_eq_some_iff.mpr (toList_text_rooted rooted)
      rw [behind, Option.getD_some, between_joined each]
  | false =>
      have present : p.steps ≠ [] := somewhere.resolve_left (by simp [rooted])
      have noSlash : stripStart ['/'] p.text.toList = none := by
        rw [Option.eq_none_iff_forall_ne_some]
        intro rest stripped
        rw [toList_text_relative rooted present] at stripped
        exact joined_ne_slash each rest (stripStart_eq_some_iff.mp stripped)
      rw [noSlash, Option.getD_none, toList_text_relative rooted present, between_joined each]

/-! ## Folding -/

theorem foldStep_sublist (rooted : Bool) (reversed : List String) (step : String) :
    (foldStep rooted reversed step).Sublist (step :: reversed) := by
  unfold foldStep
  split
  next isUp =>
    subst isUp
    cases reversed with
    | nil =>
        cases rooted
        · exact .refl _
        · exact List.nil_sublist _
    | cons last before =>
        by_cases lastUp : last = up
        · simp only [lastUp, if_true]
          exact .refl _
        · simp only [lastUp, if_false]
          exact ((List.Sublist.refl before).cons last).cons up
  next => exact .refl _

/-- Folding takes steps away and adds none. -/
theorem fold_sublist (p : Path) : p.fold.steps.Sublist p.steps := by
  have general : ∀ steps reversed : List String,
      (steps.foldl (foldStep p.rooted) reversed).Sublist (steps.reverse ++ reversed) := by
    intro steps
    induction steps with
    | nil => exact fun _ => .refl _
    | cons step rest ih =>
        intro reversed
        rw [List.foldl_cons, List.reverse_cons, List.append_assoc]
        exact (ih _).trans ((List.Sublist.refl _).append (foldStep_sublist p.rooted reversed step))
  have whole := (general p.steps []).reverse
  rwa [List.append_nil, List.reverse_reverse] at whole

theorem isStep_fold (each : ∀ step ∈ p.steps, IsStep step) : ∀ step ∈ p.fold.steps, IsStep step :=
  fun step member => each step (p.fold_sublist.subset member)

/-! ## Following -/

theorem IsStep.enter_down (isStep : IsStep step) (notUp : step ≠ up) (here : Place) :
    enter here step = here ++ [step] := by
  rw [enter, if_neg (not_or.mpr ⟨isStep.filled, isStep.noSelf⟩), if_neg notUp]

theorem enter_up (here : Place) : enter here up = here.dropLast := by
  rw [enter, if_neg (by decide), if_pos rfl]

theorem follow_concat (start : Place) (steps : List String) (step : String) :
    follow start (steps ++ [step]) = enter (follow start steps) step :=
  List.foldl_append

/-- A step that is folded onto others leads where it leads behind them. -/
theorem follow_foldStep {rooted : Bool} {start : Place} (atRoot : rooted = true → start = [])
    {reversed : List String} (each : ∀ step ∈ reversed, IsStep step) (step : String) :
    follow start (foldStep rooted reversed step).reverse =
      enter (follow start reversed.reverse) step := by
  unfold foldStep
  split
  next isUp =>
    subst isUp
    cases reversed with
    | nil =>
        cases rooted
        · exact follow_concat start [] up
        · rw [atRoot rfl, enter_up]
          rfl
    | cons last before =>
        by_cases lastUp : last = up
        · simp only [lastUp, if_true]
          rw [List.reverse_cons, follow_concat]
        · simp only [lastUp, if_false]
          rw [List.reverse_cons, follow_concat, enter_up,
            (each last List.mem_cons_self).enter_down lastUp, List.dropLast_concat]
  next => rw [List.reverse_cons, follow_concat]

/-- A folded path leads where the path leads; at the root there is no step up. -/
theorem follow_fold {start : Place} (atRoot : p.rooted = true → start = [])
    (each : ∀ step ∈ p.steps, IsStep step) :
    follow start p.fold.steps = follow start p.steps := by
  have general : ∀ steps reversed : List String, (∀ step ∈ steps, IsStep step) →
      (∀ step ∈ reversed, IsStep step) →
      follow start (steps.foldl (foldStep p.rooted) reversed).reverse =
        follow (follow start reversed.reverse) steps := by
    intro steps
    induction steps with
    | nil => exact fun _ _ _ => rfl
    | cons step rest ih =>
        intro reversed eachStep eachReversed
        obtain ⟨here, later⟩ := List.forall_mem_cons.mp eachStep
        have kept : ∀ other ∈ foldStep p.rooted reversed step, IsStep other := fun other member =>
          List.forall_mem_cons.mpr ⟨here, eachReversed⟩ other
            ((foldStep_sublist p.rooted reversed step).subset member)
        rw [List.foldl_cons, ih _ later kept, follow_foldStep atRoot eachReversed]
        rfl
  exact general p.steps [] each nofun

/-- Empty segments and those of the directory itself do not count on the way. -/
theorem walk_eq_follow (base : Place) (text : String) :
    walk base text = follow (if Disk.isRooted text = true then [] else base) (read text).steps := by
  have general : ∀ (parts : List (List Char)) (start : Place),
      follow start (parts.map String.ofList) =
        follow start ((parts.filter fun step => step ≠ [] ∧ step ≠ ['.']).map String.ofList) := by
    intro parts
    induction parts with
    | nil => exact fun _ => rfl
    | cons part rest ih =>
        intro start
        by_cases counts : part ≠ [] ∧ part ≠ ['.']
        · rw [List.filter_cons_of_pos (by simpa using counts)]
          exact ih _
        · have idle : enter start (String.ofList part) = start := by
            refine if_pos ?_
            rw [Decidable.not_and_iff_not_or_not, Decidable.not_not, Decidable.not_not] at counts
            exact counts.imp (by rintro rfl; rfl) (by rintro rfl; rfl)
          rw [List.filter_cons_of_neg (by simpa using counts), ← ih]
          show follow (enter start (String.ofList part)) _ = _
          rw [idle]
  exact general _ _

/-! ## Cleaning -/

/-- The text of a folded path is clean. -/
theorem isClean_text_fold (each : ∀ step ∈ p.steps, IsStep step) : IsClean p.fold.text := by
  have steps := isStep_fold each
  by_cases somewhere : p.fold.rooted = true ∨ p.fold.steps ≠ []
  · have same := segments_text steps somewhere
    refine ⟨?_, ?_, ?_, ?_, ?_⟩
    · intro nothing
      have nowhere : p.fold = ⟨false, []⟩ := by rw [← read_text steps, nothing]; rfl
      rw [nowhere] at somewhere
      exact somewhere.elim nofun fun present => present rfl
    · rw [same]
      exact fun member => (steps "" member).filled rfl
    · rw [same]
      exact fun member => absurd rfl (steps "." member).noSelf
    · rw [same]
      exact fold_steps p
    · rw [same, isRooted_text_eq steps]
      exact fold_rooted p
  · rw [not_or, Decidable.not_not, Bool.not_eq_true] at somewhere
    rw [text_of_nowhere somewhere.1 somewhere.2]
    exact ⟨by decide, by decide, fun _ => rfl, ⟨0, ["."], rfl, by decide⟩, by decide⟩

theorem isStep_fold_read (text : String) : ∀ step ∈ (read text).fold.steps, IsStep step :=
  isStep_fold fun _ => isStep_of_mem_read

/-- A cleaned path starts where the trimmed text does. -/
theorem isRooted_clean_eq (raw : String) :
    Disk.isRooted (clean raw) = Disk.isRooted (String.ofList (trim raw.toList)) := by
  rw [clean, isRooted_text_eq (isStep_fold_read _), rooted_fold, rooted_read]

/-- A cleaned path leads where the trimmed text leads. -/
theorem walk_clean (base : Place) (raw : String) :
    walk base (clean raw) = walk base (String.ofList (trim raw.toList)) := by
  rw [walk_eq_follow, walk_eq_follow, isRooted_clean_eq, clean, read_text (isStep_fold_read _)]
  refine follow_fold (fun rooted => ?_) fun _ => isStep_of_mem_read
  rw [rooted_read] at rooted
  rw [if_pos rooted]

/-! ## Cleaning twice -/

theorem foldl_foldStep_up (count reversed : Nat) :
    (List.replicate count up).foldl (foldStep false) (List.replicate reversed up) =
      List.replicate (reversed + count) up := by
  induction count generalizing reversed with
  | zero => rfl
  | succ count ih =>
      have next : foldStep false (List.replicate reversed up) up =
          List.replicate (reversed + 1) up := by
        cases reversed <;> rfl
      rw [List.replicate_succ, List.foldl_cons, next, ih, Nat.add_right_comm]
      rfl

theorem foldl_foldStep_down {rooted : Bool} {down : List String} (free : up ∉ down)
    (reversed : List String) :
    down.foldl (foldStep rooted) reversed = down.reverse ++ reversed := by
  induction down generalizing reversed with
  | nil => rfl
  | cons step rest ih =>
      rw [List.mem_cons, not_or] at free
      have next : foldStep rooted reversed step = step :: reversed := if_neg (Ne.symm free.1)
      rw [List.foldl_cons, next, ih free.2, List.reverse_cons, List.append_assoc]
      rfl

/-- There is nothing to fold where the steps up stand in front, and at the root where there are
none. -/
theorem fold_eq_self (upFirst : UpFirst p.steps) (rootedNoUp : p.rooted = true → up ∉ p.steps) :
    p.fold = p := by
  obtain ⟨rooted, steps⟩ := p
  obtain ⟨count, down, shape, free⟩ := upFirst
  replace shape : steps = List.replicate count up ++ down := shape
  have front : (List.replicate count up).foldl (foldStep rooted) [] = List.replicate count up := by
    cases rooted with
    | true =>
        have none : count = 0 := by
          cases count with
          | zero => rfl
          | succ count =>
              refine absurd ?_ (rootedNoUp rfl)
              rw [shape]
              exact List.mem_append_left _ List.mem_cons_self
        rw [none]
        rfl
    | false => simpa using foldl_foldStep_up count 0
  rw [fold]
  congr 1
  rw [shape, List.foldl_append, front, foldl_foldStep_down free, List.reverse_append,
    List.reverse_reverse, List.reverse_replicate]

theorem fold_fold (p : Path) : p.fold.fold = p.fold :=
  fold_eq_self (fold_steps p) (fold_rooted p)

/-- A clean path stays as it is, unless there are blanks around its text. -/
theorem clean_text_fold (each : ∀ step ∈ p.steps, IsStep step)
    (trimmed : trim p.fold.text.toList = p.fold.text.toList) : clean p.fold.text = p.fold.text := by
  rw [clean, trimmed, String.ofList_toList, read_text (isStep_fold each), fold_fold]

theorem length_joinWith_le (separator : Char) {parts others : List (List Char)}
    (fewer : parts.Sublist others) :
    (joinWith separator parts).length ≤ (joinWith separator others).length := by
  induction fewer with
  | slnil => exact Nat.le_refl _
  | @cons parts others part _ ih =>
      refine Nat.le_trans ih ?_
      rw [joinWith_cons]
      cases others with
      | nil => exact Nat.zero_le _
      | cons second more =>
          rw [joinWith_cons, List.flatMap_cons]
          simp only [List.length_append, List.length_cons]
          omega
  | @cons_cons parts others part later _ =>
      have tails : (parts.flatMap (separator :: ·)).Sublist (others.flatMap (separator :: ·)) :=
        later.flatMap _
      rw [joinWith_cons, joinWith_cons, List.length_append, List.length_append]
      exact Nat.add_le_add_left tails.length_le _

/-- The steps of a text are some of the parts between its slashes, behind the root if it starts
there. -/
theorem steps_read_sublist (text : String) {behind : List Char}
    (start : text.toList = behind ∨ text.toList = '/' :: behind) :
    ((read text).steps.map String.toList).Sublist (pieces '/' behind) := by
  have back : String.toList ∘ String.ofList = id := funext fun _ => String.toList_ofList
  show (((pieces '/' text.toList).filter _).map String.ofList |>.map String.toList).Sublist _
  rw [List.map_map, back, List.map_id]
  rcases start with same | rooted
  · rw [same]
    exact List.filter_sublist
  · rw [rooted, pieces, if_pos rfl, List.filter_cons_of_neg (by decide)]
    exact List.filter_sublist

/-- A path that is read and folded has no longer text than the one it was read from. -/
theorem length_text_fold_read_le (text : String) (filled : text.toList ≠ []) :
    (read text).fold.text.toList.length ≤ text.toList.length := by
  have fewer := (read text).fold_sublist.map String.toList
  cases rooted : Disk.isRooted text with
  | true =>
      obtain ⟨behind, chars⟩ := isRooted_iff.mp rooted
      have parts := length_joinWith_le '/'
        (fewer.trans (steps_read_sublist text (Or.inr chars)))
      rw [joinWith_pieces] at parts
      rw [toList_text_rooted (p := (read text).fold) rooted, chars, List.length_cons,
        List.length_cons]
      exact Nat.succ_le_succ parts
  | false =>
      by_cases nowhere : (read text).fold.steps = []
      · rw [text_of_nowhere rooted nowhere]
        exact List.length_pos_iff.mpr filled
      · have parts := length_joinWith_le '/'
          (fewer.trans (steps_read_sublist text (Or.inl rfl)))
        rw [joinWith_pieces] at parts
        rw [toList_text_relative rooted nowhere]
        exact parts

/-- A path that stays as it is has no blanks around its text. -/
theorem trim_of_clean_eq {raw : String} (same : clean raw = raw) :
    trim raw.toList = raw.toList := by
  obtain ⟨before, after, _, _, whole⟩ := exists_around_trim raw.toList
  by_cases blank : trim raw.toList = []
  · -- the path to the directory itself has no blanks
    rw [clean, blank] at same
    rw [← same]
    decide
  · have shorter := length_text_fold_read_le (String.ofList (trim raw.toList))
      (by rwa [String.toList_ofList])
    rw [String.toList_ofList] at shorter
    have lengths := congrArg List.length whole
    rw [List.length_append, List.length_append] at lengths
    rw [clean] at same
    rw [same] at shorter
    have none : before = [] ∧ after = [] :=
      ⟨List.length_eq_zero_iff.mp (by omega), List.length_eq_zero_iff.mp (by omega)⟩
    rw [none.1, none.2, List.nil_append, List.append_nil] at whole
    exact whole.symm

/-- A clean path stays as it is if and only if there are no blanks around its text. -/
theorem clean_text_fold_iff (each : ∀ step ∈ p.steps, IsStep step) :
    clean p.fold.text = p.fold.text ↔ trim p.fold.text.toList = p.fold.text.toList :=
  ⟨trim_of_clean_eq, clean_text_fold each⟩

/-! ## Inside a directory -/

/-- The steps to something inside a directory are those to the directory and its name. -/
theorem steps_read_inside (directory : String) {name : String} (isStep : IsStep name) :
    (read (inside directory name)).steps = (read directory).steps ++ [name] := by
  have last : (([name.toList].filter fun step => step ≠ [] ∧ step ≠ ['.']).map String.ofList) =
      [name] := filter_steps (List.forall_mem_singleton.mpr isStep)
  have cut (before : List Char) : pieces '/' (before ++ '/' :: name.toList) =
      pieces '/' before ++ [name.toList] := by
    rw [pieces_append, pieces_free isStep.free]
  show ((pieces '/' (inside directory name).toList).filter _).map String.ofList = _
  by_cases ends : directory.toList.getLast? = some '/'
  · obtain ⟨before, whole⟩ := List.getLast?_eq_some_iff.mp ends
    have chars : (inside directory name).toList = before ++ '/' :: name.toList := by
      rw [inside, if_pos ends, String.toList_append, whole, List.append_assoc]
      rfl
    have kept : (read directory).steps =
        ((pieces '/' before).filter fun step => step ≠ [] ∧ step ≠ ['.']).map String.ofList := by
      show ((pieces '/' directory.toList).filter _).map String.ofList = _
      rw [whole, pieces_append, List.filter_append]
      exact congrArg _ (List.append_nil _)
    rw [chars, cut, List.filter_append, List.map_append, last, kept]
  · have chars : (inside directory name).toList = directory.toList ++ '/' :: name.toList := by
      rw [inside, if_neg ends, String.toList_append, String.toList_append, List.append_assoc]
      rfl
    rw [chars, cut, List.filter_append, List.map_append, last]
    rfl

/-- Clean directories from the root that hold the same path are the same. -/
theorem text_eq_of_inside_eq {p q : Path} (rooted : p.rooted = true) (rooted' : q.rooted = true)
    (each : ∀ step ∈ p.steps, IsStep step) (each' : ∀ step ∈ q.steps, IsStep step)
    {name name' : String} (isStep : IsStep name) (isStep' : IsStep name')
    (same : inside p.text name = inside q.text name') : p.text = q.text := by
  have steps := congrArg (fun text => (read text).steps) same
  simp only [steps_read_inside _ isStep, steps_read_inside _ isStep', read_text each,
    read_text each'] at steps
  obtain ⟨sameSteps, _⟩ := List.append_inj' steps rfl
  rw [text, text, rooted, rooted', sameSteps]

end Path

/-! ## The data directory -/

namespace DataDirectory

open LayeredConfig.Path

variable {here : Place} {raw : String}

theorem absolute_eq (filled : isBlankText raw.toList = false) :
    absolute here raw = .ok (seen here raw).text := by
  have some : (trim raw.toList).isEmpty = false := by
    rw [List.isEmpty_eq_false_iff, ne_eq, trim_eq_nil, filled]
    exact Bool.false_ne_true
  simp only [absolute, some]
  rw [if_neg Bool.false_ne_true]
  split
  next rooted => rw [seen_of_rooted rooted [] here]
  next => rfl

theorem isStep_under (names : ∀ step ∈ here, IsStep step) :
    ∀ step ∈ (under (pathOf here) (read (String.ofList (trim raw.toList)))).steps, IsStep step := by
  intro step member
  unfold under at member
  split at member
  · exact isStep_of_mem_read member
  · exact (List.mem_append.mp member).elim (names step) isStep_of_mem_read

theorem isStep_seen (names : ∀ step ∈ here, IsStep step) :
    ∀ step ∈ (seen here raw).steps, IsStep step :=
  isStep_fold (isStep_under names)

theorem up_not_mem_seen (here : Place) (raw : String) : up ∉ (seen here raw).steps := by
  have rooted := rooted_seen here raw
  rw [seen, rooted_fold] at rooted
  exact fold_rooted _ rooted

/-- A data directory leads where its text leads from the working directory. -/
theorem follow_seen (names : ∀ step ∈ here, IsStep step) :
    follow [] (seen here raw).steps =
      walk (follow [] here) (String.ofList (trim raw.toList)) := by
  rw [seen, follow_fold (fun _ => rfl) (isStep_under names), walk_eq_follow, ← rooted_read]
  unfold under
  split
  next rooted => rfl
  next relative => exact List.foldl_append

end DataDirectory

open LayeredConfig.Path in
/-- A cleaned path is clean, starts where the trimmed text starts and leads where it leads.  A data
directory that is not blank is a clean path from the root, without steps up. -/
theorem isClean_clean (raw : String) :
    let trimmed := String.ofList (trim raw.toList)
    (IsClean (clean raw) ∧ Disk.isRooted (clean raw) = Disk.isRooted trimmed ∧
      ∀ base, walk base (clean raw) = walk base trimmed) ∧
    ∀ here : Place, (∀ step ∈ here, IsStep step) → isBlankText raw.toList = false →
      ∃ path, DataDirectory.absolute here raw = .ok path ∧
        Disk.isRooted path = true ∧
        "" ∉ segments path ∧ "." ∉ segments path ∧ up ∉ segments path ∧
        walk [] path = walk (follow [] here) trimmed := by
  intro trimmed
  refine ⟨⟨isClean_text_fold fun _ => isStep_of_mem_read, isRooted_clean_eq raw,
    fun base => walk_clean base raw⟩, ?_⟩
  intro here names filled
  have steps : ∀ step ∈ (DataDirectory.seen here raw).steps, IsStep step :=
    DataDirectory.isStep_seen names
  have rooted := DataDirectory.rooted_seen here raw
  have same := segments_text steps (Or.inl rooted)
  refine ⟨_, DataDirectory.absolute_eq filled, isRooted_text rooted, ?_, ?_, ?_, ?_⟩
  · rw [same]
    exact fun member => (steps "" member).filled rfl
  · rw [same]
    exact fun member => (steps "." member).noSelf rfl
  · rw [same]
    exact DataDirectory.up_not_mem_seen here raw
  · rw [walk_eq_follow, isRooted_text rooted, if_pos rfl, read_text steps]
    exact DataDirectory.follow_seen names

example : Path.clean " ./../a/b/..//c d/./ " = "../a/c d" := by decide

end LayeredConfig
