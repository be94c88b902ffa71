import LayeredConfig.Duration
import LayeredConfig.Proofs.Text.Trim

/-!
# Text that is a duration

Reading a duration looks at the trimmed text only, and what it accepts is made
of digits, points, units and a sign.  So replacing references in it changes
nothing.

Main statements: `read_trim_eq_ok_iff`, `dollar_not_mem_of_read`.
-/

namespace LayeredConfig.Duration

open Text

/-! ## Trimmed text -/

/-- The duration in text that is trimmed already. -/
def readTrimmed : List Char → Option Duration
  | [] => none
  | '-' :: _ => none
  | '+' :: rest => readUnsigned rest
  | cs => readUnsigned cs

theorem toOption_read (raw : String) :
    (read raw).toOption = readTrimmed (trim raw.toList) := by
  unfold read readTrimmed
  cases trim raw.toList with
  | nil => rfl
  | cons c rest =>
      by_cases minus : c = '-'
      · subst minus
        rfl
      · by_cases plus : c = '+'
        · subst plus
          cases shape : readUnsigned rest <;> simp [shape, Except.toOption]
        · simp only [List.cons.injEq, minus, plus, false_and, imp_self, implies_true]
          cases readUnsigned (c :: rest) <;> rfl

theorem read_eq_ok_iff {raw : String} {d : Duration} :
    read raw = .ok d ↔ readTrimmed (trim raw.toList) = some d := by
  rw [← toOption_read]
  cases read raw <;> simp [Except.toOption]

theorem ok_of_toOption {raw : String} {d : Duration} (found : (read raw).toOption = some d) :
    read raw = .ok d := by
  rwa [read_eq_ok_iff, ← toOption_read]

/-- Blanks around a duration do not count. -/
theorem read_trim_eq_ok_iff {raw : String} {d : Duration} :
    read (String.ofList (trim raw.toList)) = .ok d ↔ read raw = .ok d := by
  rw [read_eq_ok_iff, read_eq_ok_iff, String.toList_ofList, trim_trim]

/-! ## The characters of a duration -/

theorem dollar_mem_dropWhile {cs : List Char} (member : '$' ∈ cs) :
    '$' ∈ cs.dropWhile Char.isDigit := by
  rw [← List.takeWhile_append_dropWhile (p := Char.isDigit) (l := cs), List.mem_append] at member
  rcases member with digit | rest
  · exact absurd (List.all_eq_true.mp List.all_takeWhile '$' digit) (by decide)
  · exact rest

theorem TimeUnit.dollar_mem_rest {cs rest : List Char} {unit : TimeUnit}
    (found : TimeUnit.read cs = some (unit, rest)) (member : '$' ∈ cs) : '$' ∈ rest := by
  unfold TimeUnit.read at found
  split at found <;> simp_all

/-- No part takes a dollar sign off the front. -/
theorem Part.dollar_mem_rest {cs rest : List Char} {part : Part}
    (found : Part.read cs = some (part, rest)) (member : '$' ∈ cs) : '$' ∈ rest := by
  have afterWhole := dollar_mem_dropWhile member
  simp only [Part.read] at found
  split at found
  next more shape =>
    rw [shape, List.mem_cons] at afterWhole
    have inside : '$' ∈ more := afterWhole.resolve_left (by decide)
    split at found
    · contradiction
    · obtain ⟨⟨unit, after⟩, unitFound, same⟩ := Option.map_eq_some_iff.mp found
      obtain ⟨_, rfl⟩ := Prod.mk.inj same
      exact TimeUnit.dollar_mem_rest unitFound (dollar_mem_dropWhile inside)
  next =>
    split at found
    · contradiction
    · obtain ⟨⟨unit, after⟩, unitFound, same⟩ := Option.map_eq_some_iff.mp found
      obtain ⟨_, rfl⟩ := Prod.mk.inj same
      exact TimeUnit.dollar_mem_rest unitFound afterWhole

theorem Part.dollar_not_mem {cs : List Char} {parts : List Part}
    (found : Part.readAll cs = some parts) : '$' ∉ cs := by
  fun_induction Part.readAll cs generalizing parts with
  | case1 => contradiction
  | case2 cs part rest first last =>
      intro member
      have inRest := Part.dollar_mem_rest first member
      rw [List.isEmpty_iff.mp last] at inRest
      contradiction
  | case3 cs part rest first more shorter ih =>
      intro member
      obtain ⟨others, later, _⟩ := Option.map_eq_some_iff.mp found
      exact ih later (Part.dollar_mem_rest first member)
  | case4 => contradiction

theorem dollar_not_mem_of_readUnsigned {cs : List Char} {d : Duration}
    (found : readUnsigned cs = some d) : '$' ∉ cs := by
  unfold readUnsigned at found
  split at found
  next zero =>
    subst zero
    decide
  next =>
    obtain ⟨parts, all, _⟩ := Option.bind_eq_some_iff.mp found
    exact Part.dollar_not_mem all

theorem dollar_not_mem_of_readTrimmed {cs : List Char} {d : Duration}
    (found : readTrimmed cs = some d) : '$' ∉ cs := by
  unfold readTrimmed at found
  split at found
  · contradiction
  · contradiction
  · intro member
    rw [List.mem_cons] at member
    rcases member with same | inside
    · exact absurd same (by decide)
    · exact dollar_not_mem_of_readUnsigned found inside
  · exact dollar_not_mem_of_readUnsigned found

theorem dollar_not_mem_of_read {raw : String} {d : Duration} (found : read raw = .ok d) :
    '$' ∉ raw.toList := by
  intro member
  exact dollar_not_mem_of_readTrimmed (read_eq_ok_iff.mp found) (mem_trim member (by decide))

end LayeredConfig.Duration
