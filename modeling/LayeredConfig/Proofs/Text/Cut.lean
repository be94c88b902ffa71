import LayeredConfig.Proofs.Text.Trim
import LayeredConfig.Text.Cut
import Mathlib.Data.List.Basic

/-!
# Cutting and joining

Joining parts with a separator and cutting at it again gives the parts back, if
none of them holds the separator.  The segments of a list are such parts,
trimmed and not empty, so a list that is joined again keeps its segments.  Sorted
lists of names are equal if they hold the same names.

Main statements: `segments_joinWith`, `commaList_intercalate_eq_iff`,
`contains_eq_true_iff`.
-/

namespace LayeredConfig.Text

/-! ## Pieces -/

theorem flatMap_eq_self {α : Type} {items : List α} {f : α → List α}
    (each : ∀ a ∈ items, f a = [a]) : items.flatMap f = items := by
  rw [List.flatMap_congr each, List.flatMap_singleton']

theorem pieces_free {separator : Char} {cs : List Char} (free : separator ∉ cs) :
    pieces separator cs = [cs] := by
  induction cs with
  | nil => rfl
  | cons c rest ih =>
      rw [List.mem_cons, not_or] at free
      rw [pieces, if_neg (Ne.symm free.1), ih free.2]

/-- A separator cuts. -/
theorem pieces_append (separator : Char) (before after : List Char) :
    pieces separator (before ++ separator :: after) =
      pieces separator before ++ pieces separator after := by
  induction before with
  | nil => simp [pieces]
  | cons c rest ih =>
      rw [List.cons_append, pieces, pieces, ih]
      split
      · rfl
      · cases shape : pieces separator rest with
        | nil => exact absurd shape (pieces_ne_nil separator rest)
        | cons first others => rfl

/-- Joined parts are cut where they were joined, and where they hold the separator themselves. -/
theorem pieces_joinWith_eq_flatMap (separator : Char) {parts : List (List Char)}
    (present : parts ≠ []) :
    pieces separator (joinWith separator parts) = parts.flatMap (pieces separator) := by
  induction parts with
  | nil => exact absurd rfl present
  | cons first rest ih =>
      cases rest with
      | nil => rw [joinWith, List.flatMap_cons, List.flatMap_nil, List.append_nil]
      | cons second others =>
          rw [joinWith, pieces_append, ih (List.cons_ne_nil _ _), ← List.flatMap_cons]

theorem pieces_joinWith {separator : Char} {parts : List (List Char)} (present : parts ≠ [])
    (free : ∀ part ∈ parts, separator ∉ part) :
    pieces separator (joinWith separator parts) = parts := by
  rw [pieces_joinWith_eq_flatMap separator present]
  exact flatMap_eq_self fun part member => pieces_free (free part member)

theorem not_mem_of_mem_pieces {separator : Char} {cs piece : List Char}
    (member : piece ∈ pieces separator cs) : separator ∉ piece := by
  induction cs generalizing piece with
  | nil =>
      rw [List.mem_singleton.mp member]
      exact List.not_mem_nil
  | cons c rest ih =>
      rw [pieces] at member
      split at member
      next =>
        rcases List.mem_cons.mp member with rfl | inRest
        · exact List.not_mem_nil
        · exact ih inRest
      next differ =>
        cases shape : pieces separator rest with
        | nil => exact absurd shape (pieces_ne_nil separator rest)
        | cons first others =>
            rw [shape] at member
            rcases List.mem_cons.mp member with rfl | inOthers
            · rw [List.mem_cons, not_or]
              exact ⟨Ne.symm differ, ih (shape ▸ List.mem_cons_self)⟩
            · exact ih (shape ▸ List.mem_cons_of_mem first inOthers)

/-- Every part but the first stands behind a separator. -/
theorem joinWith_cons (separator : Char) (first : List Char) (others : List (List Char)) :
    joinWith separator (first :: others) = first ++ others.flatMap (separator :: ·) := by
  induction others generalizing first with
  | nil => rw [joinWith, List.flatMap_nil, List.append_nil]
  | cons second others ih => rw [joinWith, ih, List.flatMap_cons, List.cons_append]

theorem not_mem_joinWith {separator c : Char} {parts : List (List Char)} (other : c ≠ separator)
    (each : ∀ part ∈ parts, c ∉ part) : c ∉ joinWith separator parts := by
  cases parts with
  | nil => exact List.not_mem_nil
  | cons first others =>
      obtain ⟨here, later⟩ := List.forall_mem_cons.mp each
      rw [joinWith_cons, List.mem_append, List.mem_flatMap]
      rintro (inFirst | ⟨part, member, inPart⟩)
      · exact here inFirst
      · exact (List.mem_cons.mp inPart).elim other (later part member)

/-- The first separator cuts. -/
theorem cutOnce_append {separator : Char} {before : List Char} (free : separator ∉ before)
    (after : List Char) :
    cutOnce separator (before ++ separator :: after) = some (before, after) := by
  induction before with
  | nil => rw [List.nil_append, cutOnce, if_pos rfl]
  | cons c rest ih =>
      rw [List.mem_cons, not_or] at free
      rw [List.cons_append, cutOnce, if_neg (Ne.symm free.1), ih free.2, Option.map_some]

theorem cutOnce_eq_none_iff {separator : Char} {cs : List Char} :
    cutOnce separator cs = none ↔ separator ∉ cs := by
  induction cs with
  | nil => simp [cutOnce]
  | cons c rest ih =>
      rw [cutOnce, List.mem_cons, not_or]
      split
      next same => simp [same]
      next differ => rw [Option.map_eq_none_iff, ih, and_iff_right (Ne.symm differ)]

/-- The cut is at the first separator. -/
theorem cutOnce_eq_some_iff {separator : Char} {cs before after : List Char} :
    cutOnce separator cs = some (before, after) ↔
      separator ∉ before ∧ cs = before ++ separator :: after := by
  constructor
  · induction cs generalizing before with
    | nil => exact nofun
    | cons c rest ih =>
        rw [cutOnce]
        split
        next same =>
          rintro cut
          obtain ⟨rfl, rfl⟩ := Prod.mk.inj (Option.some.inj cut)
          exact ⟨List.not_mem_nil, congrArg (· :: rest) same⟩
        next differ =>
          intro cut
          obtain ⟨⟨before', after'⟩, later, shape⟩ := Option.map_eq_some_iff.mp cut
          obtain ⟨rfl, rfl⟩ := Prod.mk.inj shape
          obtain ⟨free, rfl⟩ := ih later
          exact ⟨fun member => (List.mem_cons.mp member).elim (Ne.symm differ) free, rfl⟩
  · rintro ⟨free, rfl⟩
    exact cutOnce_append free after

/-- A text that is joined from trimmed parts is trimmed. -/
theorem trim_joinWith (separator : Char) {parts : List (List Char)} (present : parts ≠ [])
    (each : ∀ part ∈ parts, trim part = part ∧ part ≠ []) :
    trim (joinWith separator parts) = joinWith separator parts ∧ joinWith separator parts ≠ [] := by
  induction parts with
  | nil => exact absurd rfl present
  | cons first rest ih =>
      obtain ⟨here, later⟩ := List.forall_mem_cons.mp each
      cases rest with
      | nil => exact here
      | cons second others =>
          have behind := ih (List.cons_ne_nil _ _) later
          rw [joinWith]
          exact ⟨trim_append_cons here behind separator, List.append_ne_nil_of_left_ne_nil here.2 _⟩

/-! ## Segments -/

/-- What may stand between two separators of a list: it holds no separator, has no blanks around it
and is not empty. -/
structure IsSegment (separator : Char) (part : List Char) : Prop where
  free : separator ∉ part
  trimmed : trim part = part
  filled : part ≠ []

theorem isSegment_of_mem_segments {separator : Char} {cs part : List Char}
    (member : part ∈ segments separator cs) : IsSegment separator part := by
  obtain ⟨inMap, filled⟩ := List.mem_filter.mp member
  obtain ⟨piece, inPieces, rfl⟩ := List.mem_map.mp inMap
  exact ⟨fun inPart => not_mem_of_mem_pieces inPieces (mem_of_mem_trim inPart), trim_trim piece,
    of_decide_eq_true filled⟩

/-- What stands between two separators of a list is a list of its own. -/
theorem segments_joinWith_eq_flatMap (separator : Char) (parts : List (List Char)) :
    segments separator (joinWith separator parts) = parts.flatMap (segments separator) := by
  cases parts with
  | nil => rfl
  | cons first others =>
      rw [segments, pieces_joinWith_eq_flatMap separator (List.cons_ne_nil _ _), List.map_flatMap,
        List.filter_flatMap]
      rfl

theorem IsSegment.segments_eq {separator : Char} {part : List Char}
    (segment : IsSegment separator part) : segments separator part = [part] := by
  rw [segments, pieces_free segment.free, List.map_singleton, segment.trimmed]
  exact List.filter_eq_self.mpr fun only member =>
    decide_eq_true (List.mem_singleton.mp member ▸ segment.filled)

/-- Segments that are joined are the segments of the text. -/
theorem segments_joinWith {separator : Char} {parts : List (List Char)}
    (each : ∀ part ∈ parts, IsSegment separator part) :
    segments separator (joinWith separator parts) = parts := by
  rw [segments_joinWith_eq_flatMap]
  exact flatMap_eq_self fun part member => (each part member).segments_eq

theorem isSegment_of_mem_commaList {raw name : String} (member : name ∈ commaList raw) :
    IsSegment ',' name.toList := by
  obtain ⟨part, inSegments, rfl⟩ := List.mem_map.mp member
  rw [String.toList_ofList]
  exact isSegment_of_mem_segments inSegments

/-- A joined list holds the names that its parts hold. -/
theorem commaList_intercalate_eq_flatMap (names : List String) :
    commaList (",".intercalate names) = names.flatMap commaList := by
  have chars : (",".intercalate names).toList = joinWith ',' (names.map String.toList) :=
    toList_intercalate ',' names
  rw [commaList, chars, segments_joinWith_eq_flatMap, List.flatMap_map, List.map_flatMap]
  rfl

/-- A joined list is cut into the names it was joined from if and only if each of them is trimmed,
not empty and without a comma. -/
theorem commaList_intercalate_eq_iff {names : List String} :
    commaList (",".intercalate names) = names ↔ ∀ name ∈ names, IsSegment ',' name.toList := by
  constructor
  · intro same name member
    rw [← same] at member
    exact isSegment_of_mem_commaList member
  · intro each
    rw [commaList_intercalate_eq_flatMap]
    refine flatMap_eq_self fun name member => ?_
    rw [commaList, (each name member).segments_eq, List.map_singleton, String.ofList_toList]

/-! ## Names in order -/

theorem pairwise_mergeSort (names : List String) :
    (names.mergeSort (· ≤ ·)).Pairwise (· ≤ ·) := by
  have sorted := @List.pairwise_mergeSort String (fun a b => decide (a ≤ b))
    (fun a b c first second => decide_eq_true
      (String.le_trans (of_decide_eq_true first) (of_decide_eq_true second)))
    (fun a b => by
      rw [Bool.or_eq_true, decide_eq_true_eq, decide_eq_true_eq]
      exact String.le_total a b) names
  exact sorted.imp of_decide_eq_true

/-- Two lists are the same when sorted if they hold the same names as often. -/
theorem mergeSort_eq_iff_perm {names others : List String} :
    names.mergeSort (· ≤ ·) = others.mergeSort (· ≤ ·) ↔ names.Perm others := by
  have permNames := List.mergeSort_perm names (· ≤ ·)
  have permOthers := List.mergeSort_perm others (· ≤ ·)
  constructor
  · intro same
    rw [same] at permNames
    exact permNames.symm.trans permOthers
  · intro perm
    exact List.Perm.eq_of_pairwise (fun _ _ _ _ first second => String.le_antisymm first second)
      (pairwise_mergeSort _) (pairwise_mergeSort _) ((permNames.trans perm).trans permOthers.symm)

/-! ## Parts of a text -/

/-- Text that drops a beginning is what stands behind it. -/
theorem stripStart_eq_some_iff {start cs rest : List Char} :
    stripStart start cs = some rest ↔ cs = start ++ rest := by
  fun_induction stripStart start cs with
  | case1 cs => simp
  | case2 c start => simp
  | case3 c start cs ih => simp [ih]
  | case4 c start d cs differ => simp [Ne.symm differ]

theorem stripEnd_eq_some_iff {ending cs rest : List Char} :
    stripEnd ending cs = some rest ↔ cs = rest ++ ending := by
  rw [stripEnd, Option.map_eq_some_iff]
  constructor
  · rintro ⟨turned, stripped, rfl⟩
    rw [← List.reverse_reverse cs, stripStart_eq_some_iff.mp stripped, List.reverse_append,
      List.reverse_reverse]
  · rintro rfl
    exact ⟨rest.reverse, stripStart_eq_some_iff.mpr List.reverse_append, List.reverse_reverse rest⟩

/-- A text is what is left without a character at its end, and a stretch of that character. -/
theorem exists_trailing (c : Char) (cs : List Char) :
    ∃ k, (cs.reverse.dropWhile (· = c)).reverse ++ List.replicate k c = cs := by
  have trailing : cs.reverse.takeWhile (· = c) =
      List.replicate (cs.reverse.takeWhile (· = c)).length c :=
    List.eq_replicate_iff.mpr ⟨rfl, fun d member =>
      of_decide_eq_true (List.all_eq_true.mp List.all_takeWhile d member)⟩
  refine ⟨(cs.reverse.takeWhile (· = c)).length, ?_⟩
  calc (cs.reverse.dropWhile (· = c)).reverse ++ List.replicate _ c
      = (cs.reverse.takeWhile (· = c) ++ cs.reverse.dropWhile (· = c)).reverse := by
        rw [List.reverse_append, trailing, List.reverse_replicate, List.length_replicate]
    _ = cs := by rw [List.takeWhile_append_dropWhile, List.reverse_reverse]

theorem startsWith_eq_true_iff {start cs : List Char} :
    startsWith start cs = true ↔ start <+: cs := by
  unfold startsWith
  fun_induction stripStart start cs with
  | case1 cs => simp
  | case2 p ps => simp
  | case3 p ps cs ih => rw [ih, List.prefix_cons_inj]
  | case4 p ps c cs differ => simp [differ]

theorem contains_eq_true_iff {part cs : List Char} : contains part cs = true ↔ part <:+: cs := by
  induction cs with
  | nil => rw [contains, List.isEmpty_iff, List.infix_nil]
  | cons c rest ih =>
      rw [contains, Bool.or_eq_true, startsWith_eq_true_iff, ih, List.infix_cons_iff]

end LayeredConfig.Text
