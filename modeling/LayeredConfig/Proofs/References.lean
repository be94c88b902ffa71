import LayeredConfig.Proofs.Reading
import LayeredConfig.Proofs.Text.Trim
import LayeredConfig.References

/-!
# What a reference stands for

Replacing references never fails, so the replaced text is a function of the
variables, `expanded`.  Text without a dollar sign stands for itself, and blanks
around a text stay blanks around what it stands for.

Main statements: `yields_expand`, `expanded_eq_self`, `Reference.trim_meaning_trim`.
-/

namespace LayeredConfig

open Text

namespace Reference

variable {values : String → Option String}

def Piece.meaning (values : String → Option String) : Piece → List Char
  | .literal c => [c]
  | .name n => ((values n).getD "").toList

theorem yields_fill {list : List Piece} {cs : List Char} :
    Reading.Yields values (fill list) cs ↔ list.flatMap (Piece.meaning values) = cs := by
  induction list generalizing cs with
  | nil => simp [fill]
  | cons piece rest ih =>
      cases piece with
      | literal c => simp [fill, ih, Piece.meaning]
      | name name => simp [fill, ih, Piece.meaning]

/-! ## Text without references -/

theorem pieces_cons_of_ne {c : Char} (differ : c ≠ '$') (cs : List Char) :
    pieces (c :: cs) = .literal c :: pieces cs := by
  rw [pieces]
  intro same
  exact differ same

theorem pieces_eq_literals {cs : List Char} (free : '$' ∉ cs) :
    pieces cs = cs.map Piece.literal := by
  induction cs with
  | nil => simp [pieces]
  | cons c rest ih =>
      rw [List.mem_cons, not_or] at free
      rw [pieces_cons_of_ne (Ne.symm free.1), ih free.2, List.map_cons]

/-! ## Blanks around a text -/

theorem pieces_blank_append {blanks : List Char} (allBlank : blanks.all isBlank = true)
    (cs : List Char) : pieces (blanks ++ cs) = blanks.map Piece.literal ++ pieces cs := by
  induction blanks with
  | nil => rfl
  | cons b rest ih =>
      rw [List.all_cons, Bool.and_eq_true] at allBlank
      have noDollar : b ≠ '$' := by
        rintro rfl
        exact absurd allBlank.1 (by decide)
      rw [List.cons_append, pieces_cons_of_ne noDollar, ih allBlank.2, List.map_cons,
        List.cons_append]

/-- No blank is an ASCII letter, digit or underscore. -/
theorem inName_of_blank {b : Char} (blank : isBlank b = true) : inName b = false := by
  cases inside : inName b with
  | false => rfl
  | true =>
      have printing : 33 ≤ b.toNat ∧ b.toNat ≤ 126 := by
        simp only [inName, Char.isAlphanum, Char.isDigit, Bool.or_eq_true, Bool.and_eq_true,
          decide_eq_true_eq, UInt32.le_iff_toNat_le] at inside
        rcases inside with (letter | digit) | same
        · have bounds := isAlpha_cases letter
          omega
        · exact ⟨Nat.le_trans (by decide) digit.1, Nat.le_trans digit.2 (by decide)⟩
        · subst same
          decide
      rw [isBlank_eq_false printing.1 printing.2] at blank
      contradiction

theorem opensName_of_blank {b : Char} (blank : isBlank b = true) : opensName b = false := by
  have := inName_of_blank blank
  simp only [inName, opensName, Char.isAlphanum, Bool.or_eq_false_iff] at this ⊢
  exact ⟨this.1.1, this.2⟩

/-- A stretch of characters of one class ends where another character follows. -/
theorem span_append {p : Char → Bool} {b : Char} (stop : p b = false) (cs : List Char) :
    (cs ++ [b]).takeWhile p = cs.takeWhile p ∧
      (cs ++ [b]).dropWhile p = cs.dropWhile p ++ [b] := by
  induction cs with
  | nil => simp [stop]
  | cons c rest ih =>
      cases here : p c with
      | false => simp [here]
      | true => simp [here, ih]

theorem readName_append_blank {b : Char} (blank : isBlank b = true) (cs : List Char) :
    readName (cs ++ [b]) = (readName cs).map fun found => (found.1, found.2 ++ [b]) := by
  cases cs with
  | nil => simp [readName, opensName_of_blank blank]
  | cons c rest =>
      obtain ⟨taken, dropped⟩ := span_append (inName_of_blank blank) (c :: rest)
      rw [List.cons_append] at taken dropped ⊢
      simp only [readName, taken, dropped]
      split <;> rfl

/-- Without a brace in front a reference is a name. -/
theorem read_of_ne_brace {c : Char} (differ : c ≠ '\x7b') (cs : List Char) :
    read (c :: cs) = (readName (c :: cs)).map fun found => (String.ofList found.1, found.2) := by
  unfold read
  split
  next inside shape => exact absurd (List.cons.inj shape).1 differ
  next => rfl

theorem read_append_blank {b : Char} (blank : isBlank b = true) (cs : List Char) :
    read (cs ++ [b]) = (read cs).map fun found => (found.1, found.2 ++ [b]) := by
  have noOpen : b ≠ '\x7b' := by
    rintro rfl
    exact absurd blank (by decide)
  have noClose : b ≠ '\x7d' := by
    rintro rfl
    exact absurd blank (by decide)
  cases cs with
  | nil =>
      rw [List.nil_append, read_of_ne_brace noOpen]
      simp [read, readName, opensName_of_blank blank]
  | cons c rest =>
      by_cases brace : c = '\x7b'
      · subst brace
        rw [List.cons_append]
        simp only [read, readName_append_blank blank]
        -- the name inside the braces ends at the same character with and without the blank
        cases readName rest with
        | none => rfl
        | some found =>
            obtain ⟨name, after⟩ := found
            cases after with
            | nil => simp [noClose]
            | cons d more => by_cases close : d = '\x7d' <;> simp [close]
      · rw [List.cons_append, read_of_ne_brace brace, read_of_ne_brace brace, ← List.cons_append,
          readName_append_blank blank, Option.map_map, Option.map_map]
        rfl

theorem pieces_append_blank {b : Char} (blank : isBlank b = true) (cs : List Char) :
    pieces (cs ++ [b]) = pieces cs ++ [.literal b] := by
  have noDollar : b ≠ '$' := by
    rintro rfl
    exact absurd blank (by decide)
  fun_induction pieces cs with
  | case1 => simp [pieces_cons_of_ne noDollar, pieces]
  | case2 rest name after found shorter ih =>
      rw [List.cons_append, pieces]
      simp [read_append_blank blank, found, shorter, ih]
  | case3 rest name after found longer ih =>
      rw [List.cons_append, pieces]
      simp [read_append_blank blank, found, longer, ih]
  | case4 rest nothing ih =>
      rw [List.cons_append, pieces]
      simp [read_append_blank blank, nothing, ih]
  | case5 c rest differ ih =>
      rw [List.cons_append, pieces_cons_of_ne differ, ih, List.cons_append]

theorem pieces_append_blanks {blanks : List Char} (allBlank : blanks.all isBlank = true)
    (cs : List Char) : pieces (cs ++ blanks) = pieces cs ++ blanks.map Piece.literal := by
  induction blanks generalizing cs with
  | nil => simp
  | cons b rest ih =>
      rw [List.all_cons, Bool.and_eq_true] at allBlank
      rw [List.append_cons, ih allBlank.2, pieces_append_blank allBlank.1, List.append_assoc,
        List.map_cons, List.singleton_append]

/-- The characters that a text stands for. -/
def meaning (values : String → Option String) (cs : List Char) : List Char :=
  (pieces cs).flatMap (Piece.meaning values)

theorem flatMap_literal (cs : List Char) :
    (cs.map Piece.literal).flatMap (Piece.meaning values) = cs := by
  rw [List.flatMap_map]
  simp [Piece.meaning]

theorem meaning_eq_self {cs : List Char} (free : '$' ∉ cs) : meaning values cs = cs := by
  rw [meaning, pieces_eq_literals free, flatMap_literal]

/-- Up to blanks a text stands for what its trimmed middle stands for. -/
theorem trim_meaning_trim (cs : List Char) :
    trim (meaning values (trim cs)) = trim (meaning values cs) := by
  obtain ⟨before, after, blankBefore, blankAfter, shape⟩ := exists_around_trim cs
  have around : meaning values cs = before ++ meaning values (trim cs) ++ after := by
    rw [meaning, shape, pieces_append_blanks blankAfter, pieces_blank_append blankBefore,
      List.flatMap_append, List.flatMap_append, flatMap_literal, flatMap_literal, ← shape, meaning]
  rw [around, trim_around blankBefore blankAfter]

end Reference

def expanded (values : String → Option String) (text : String) : String :=
  String.ofList (Reference.meaning values text.toList)

variable {values : String → Option String}

@[simp] theorem yields_expand {text result : String} :
    Reading.Yields values (expand text) result ↔ expanded values text = result := by
  simp [expand, expanded, Reference.yields_fill, Reference.meaning]

theorem expanded_eq_self {text : String} (free : '$' ∉ text.toList) :
    expanded values text = text := by
  rw [expanded, Reference.meaning_eq_self free, String.ofList_toList]

end LayeredConfig
