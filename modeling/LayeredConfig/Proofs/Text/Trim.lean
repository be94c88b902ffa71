import LayeredConfig.Text.Blank

/-!
# What trimming keeps

Text is its trimmed middle between two stretches of blanks, and trimming does
not see such stretches.  Both facts together let a reader that trims be compared
with one that was handed trimmed text.

Main statements: `exists_around_trim`, `trim_around`.
-/

namespace LayeredConfig.Text

theorem dropWhile_blank_append {blanks : List Char} (allBlank : blanks.all isBlank = true)
    (cs : List Char) : (blanks ++ cs).dropWhile isBlank = cs.dropWhile isBlank := by
  induction blanks with
  | nil => rfl
  | cons b rest ih =>
      rw [List.all_cons, Bool.and_eq_true] at allBlank
      rw [List.cons_append, List.dropWhile_cons_of_pos allBlank.1, ih allBlank.2]

theorem trim_append_blank {blanks : List Char} (allBlank : blanks.all isBlank = true)
    (cs : List Char) : trim (cs ++ blanks) = trim cs := by
  unfold trim
  by_cases nothing : cs.all isBlank = true
  · have whole : (cs ++ blanks).all isBlank = true := by
      rw [List.all_append, nothing, allBlank, Bool.and_self]
    rw [dropWhile_eq_nil.mpr nothing, dropWhile_eq_nil.mpr whole]
  · have filled : ¬(cs.dropWhile isBlank).isEmpty = true := by
      rw [List.isEmpty_iff, dropWhile_eq_nil]
      exact nothing
    rw [List.dropWhile_append, if_neg filled, List.reverse_append,
      dropWhile_blank_append (by rw [List.all_reverse, allBlank])]

/-- Blanks around a text do not count. -/
theorem trim_around {before after : List Char} (blankBefore : before.all isBlank = true)
    (blankAfter : after.all isBlank = true) (cs : List Char) :
    trim (before ++ cs ++ after) = trim cs := by
  rw [trim_append_blank blankAfter, trim, dropWhile_blank_append blankBefore, trim]

/-- Text is its trimmed middle between two stretches of blanks. -/
theorem exists_around_trim (cs : List Char) :
    ∃ before after, before.all isBlank = true ∧ after.all isBlank = true ∧
      cs = before ++ trim cs ++ after := by
  let tail := cs.dropWhile isBlank
  refine ⟨cs.takeWhile isBlank, (tail.reverse.takeWhile isBlank).reverse, ?_, ?_, ?_⟩
  · exact List.all_takeWhile
  · rw [List.all_reverse]
    exact List.all_takeWhile
  · have split : trim cs ++ (tail.reverse.takeWhile isBlank).reverse = tail := by
      rw [trim, ← List.reverse_append, List.takeWhile_append_dropWhile, List.reverse_reverse]
    rw [List.append_assoc, split, List.takeWhile_append_dropWhile]

theorem trim_trim (cs : List Char) : trim (trim cs) = trim cs := by
  obtain ⟨before, after, blankBefore, blankAfter, shape⟩ := exists_around_trim cs
  exact ((congrArg trim shape).trans (trim_around blankBefore blankAfter (trim cs))).symm

theorem mem_of_mem_trim {c : Char} {cs : List Char} (member : c ∈ trim cs) : c ∈ cs := by
  obtain ⟨before, after, _, _, shape⟩ := exists_around_trim cs
  rw [shape]
  exact List.mem_append_left _ (List.mem_append_right _ member)

/-- A character that is no blank survives trimming. -/
theorem mem_trim {c : Char} {cs : List Char} (member : c ∈ cs) (filled : isBlank c = false) :
    c ∈ trim cs := by
  obtain ⟨before, after, blankBefore, blankAfter, shape⟩ := exists_around_trim cs
  rw [shape, List.mem_append, List.mem_append] at member
  rcases member with (early | middle) | late
  · rw [List.all_eq_true.mp blankBefore c early] at filled
    contradiction
  · exact middle
  · rw [List.all_eq_true.mp blankAfter c late] at filled
    contradiction

/-- A trimmed text has no blank at either end. -/
theorem trim_eq_self_iff {cs : List Char} :
    trim cs = cs ↔ cs.dropWhile isBlank = cs ∧ cs.reverse.dropWhile isBlank = cs.reverse := by
  constructor
  · intro trimmed
    have suffix := List.dropWhile_suffix isBlank (l := cs)
    have atMost : (trim cs).length ≤ (cs.dropWhile isBlank).length := by
      rw [trim, List.length_reverse]
      exact Nat.le_trans (List.dropWhile_suffix isBlank).length_le
        (Nat.le_of_eq List.length_reverse)
    rw [trimmed] at atMost
    have front : cs.dropWhile isBlank = cs := suffix.eq_of_length_le atMost
    rw [trim, front] at trimmed
    exact ⟨front, (List.reverse_eq_iff.mp trimmed)⟩
  · rintro ⟨front, back⟩
    rw [trim, front, back, List.reverse_reverse]

theorem trim_of_filled {cs : List Char} (filled : ∀ c ∈ cs, isBlank c = false) : trim cs = cs := by
  have kept : ∀ ds : List Char, (∀ c ∈ ds, isBlank c = false) → ds.dropWhile isBlank = ds := by
    intro ds each
    cases ds with
    | nil => rfl
    | cons c rest =>
        exact List.dropWhile_cons_of_neg (Bool.eq_false_iff.mp (each c List.mem_cons_self))
  exact trim_eq_self_iff.mpr
    ⟨kept cs filled, kept cs.reverse fun c member => filled c (List.mem_reverse.mp member)⟩

/-- What is in front and no blank stays in front. -/
theorem exists_trim_cons {c : Char} (filled : isBlank c = false) (rest : List Char) :
    ∃ rest', trim (c :: rest) = c :: rest' := by
  obtain ⟨before, after, blankBefore, blankAfter, whole⟩ := exists_around_trim (c :: rest)
  have noBlank : ∀ blanks : List Char, blanks.all isBlank = true → c ∉ blanks := by
    intro blanks allBlank member
    exact Bool.noConfusion (filled.symm.trans (List.all_eq_true.mp allBlank c member))
  cases before with
  | cons b _ =>
      obtain ⟨rfl, _⟩ := List.cons.inj whole
      exact absurd List.mem_cons_self (noBlank _ blankBefore)
  | nil =>
      rw [List.nil_append] at whole
      cases middle : trim (c :: rest) with
      | cons first rest' =>
          rw [middle] at whole
          obtain ⟨rfl, _⟩ := List.cons.inj whole
          exact ⟨rest', rfl⟩
      | nil =>
          rw [middle, List.nil_append] at whole
          exact absurd (whole ▸ List.mem_cons_self) (noBlank _ blankAfter)

/-- Trimmed texts on both sides of a character. -/
theorem trim_append_cons {before after : List Char} (front : trim before = before ∧ before ≠ [])
    (back : trim after = after ∧ after ≠ []) (c : Char) :
    trim (before ++ c :: after) = before ++ c :: after := by
  have opened := (trim_eq_self_iff.mp front.1).1
  have closed := (trim_eq_self_iff.mp back.1).2
  rw [trim_eq_self_iff]
  constructor
  · rw [List.dropWhile_append, opened, if_neg (by rw [List.isEmpty_iff]; exact front.2)]
  · rw [List.reverse_append, List.reverse_cons, List.append_assoc, List.dropWhile_append, closed,
      if_neg (by rw [List.isEmpty_iff, List.reverse_eq_nil_iff]; exact back.2)]

/-! ## Letters -/

/-- A letter is one of the ASCII letters. -/
theorem isAlpha_cases {c : Char} (letter : c.isAlpha = true) :
    (65 ≤ c.toNat ∧ c.toNat ≤ 90) ∨ (97 ≤ c.toNat ∧ c.toNat ≤ 122) := by
  have either : c.isUpper = true ∨ c.isLower = true := (Bool.or_eq_true _ _).mp letter
  rcases either with upper | lower
  · obtain ⟨low, high⟩ : c.val ≥ 'A'.val ∧ c.val ≤ 'Z'.val := of_decide_eq_true upper
    exact Or.inl ⟨UInt32.le_iff_toNat_le.mp low, UInt32.le_iff_toNat_le.mp high⟩
  · obtain ⟨low, high⟩ := (Bool.and_eq_true _ _).mp lower
    exact Or.inr ⟨UInt32.le_iff_toNat_le.mp (of_decide_eq_true low),
      UInt32.le_iff_toNat_le.mp (of_decide_eq_true high)⟩

/-- No printing ASCII character is a blank. -/
theorem isBlank_eq_false {c : Char} (low : 33 ≤ c.toNat) (high : c.toNat ≤ 126) :
    isBlank c = false := by
  simp only [isBlank, Bool.or_eq_false_iff, Bool.and_eq_false_iff, decide_eq_false_iff_not,
    beq_eq_false_iff_ne]
  omega

/-- A capital letter lies 32 below its small letter; no other character changes. -/
theorem toLower_cases (c : Char) :
    (65 ≤ c.toNat ∧ c.toNat ≤ 90 ∧ c.toLower.toNat = c.toNat + 32) ∨
      (¬(65 ≤ c.toNat ∧ c.toNat ≤ 90) ∧ c.toLower = c) := by
  unfold Char.toLower
  split
  next upper =>
    have low : 65 ≤ c.toNat := UInt32.le_iff_toNat_le.mp upper.1
    have high : c.val.toNat ≤ 90 := UInt32.le_iff_toNat_le.mp upper.2
    have gap : ('a'.val - 'A'.val).toNat = 32 := by decide
    refine Or.inl ⟨low, high, ?_⟩
    rw [Char.toNat, UInt32.toNat_add, gap, Nat.mod_eq_of_lt (by omega), Char.toNat]
  next notUpper =>
    refine Or.inr ⟨fun both => notUpper ?_, rfl⟩
    exact ⟨UInt32.le_iff_toNat_le.mpr both.1, UInt32.le_iff_toNat_le.mpr both.2⟩

theorem isBlank_toLower (c : Char) : isBlank c.toLower = isBlank c := by
  rcases toLower_cases c with ⟨low, high, shifted⟩ | ⟨_, same⟩
  · rw [isBlank_eq_false (c := c) (by omega) (by omega)]
    exact isBlank_eq_false (by omega) (by omega)
  · rw [same]

theorem toLower_toLower (c : Char) : c.toLower.toLower = c.toLower := by
  rcases toLower_cases c with ⟨low, high, shifted⟩ | ⟨_, same⟩
  · rcases toLower_cases c.toLower with ⟨_, notHigh, _⟩ | ⟨_, again⟩
    · omega
    · exact again
  · rw [same, same]

theorem lowerAscii_lowerAscii (cs : List Char) : lowerAscii (lowerAscii cs) = lowerAscii cs := by
  have same : Char.toLower ∘ Char.toLower = Char.toLower := funext toLower_toLower
  rw [lowerAscii, lowerAscii, List.map_map, same]

theorem trim_lowerAscii (cs : List Char) : trim (lowerAscii cs) = lowerAscii (trim cs) := by
  have same : isBlank ∘ Char.toLower = isBlank := funext isBlank_toLower
  rw [trim, trim, lowerAscii, lowerAscii, List.dropWhile_map, ← List.map_reverse,
    List.dropWhile_map, ← List.map_reverse, same]

end LayeredConfig.Text
