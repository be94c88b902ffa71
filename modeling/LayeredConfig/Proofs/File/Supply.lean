import LayeredConfig.File.Merge
import LayeredConfig.Proofs.Config
import LayeredConfig.Proofs.File.Form
import LayeredConfig.Proofs.References

/-!
# What a key of the file supplies

A key supplies a value to its setting if the file gives it one that is no empty
list.  What stands in the file is then read: durations and the credential mode
as such, references in addresses, credentials and paths replaced, the two comma
lists joined.  This rule is the function `Value.ofFile`; a table from the file is
added to the one below it, `Value.onto`.

Main statement: `File.yields_resolve`, merging a key follows the rule.
-/

namespace LayeredConfig

open Text Reading

variable {values : String → Option String}

/-! ## The rule -/

namespace Value

/-- The value that what stands in the file means; an empty list means none. -/
def ofFile (values : String → Option String) (s : Setting) : Value → Option Value
  | .text raw =>
      if s.kind = .duration then (Duration.read raw).toOption.map .duration
      else if s = .receiverAuthMode then
        some (.text (String.ofList (lowerAscii (trim raw.toList))))
      else if s.isExpanded then some (.text (expanded values raw))
      else some (.text raw)
  | .texts list =>
      if list.isEmpty then none
      else if s.isCommaList then some (.text (",".intercalate list))
      else some (.texts list)
  | .ints list => if list.isEmpty then none else some (.ints list)
  | .tokens list => if list.isEmpty then none else some (.tokens list)
  | .mappings list => if list.isEmpty then none else some (.mappings list)
  | .libraryRoots list =>
      if list.isEmpty then none
      else some (.libraryRoots
        (list.map fun root => { root with path := expanded values root.path }))
  | other => some other

theorem ofFile_duration {s : Setting} (timed : s.kind = .duration) (raw : String) :
    ofFile values s (.text raw) = (Duration.read raw).toOption.map .duration :=
  if_pos timed

theorem ofFile_text {s : Setting} (notTimed : s.kind ≠ .duration) (raw : String) :
    ofFile values s (.text raw) =
      if s = .receiverAuthMode then some (.text (String.ofList (lowerAscii (trim raw.toList))))
      else if s.isExpanded then some (.text (expanded values raw))
      else some (.text raw) :=
  if_neg notTimed

/-- A list without members. -/
def isEmptyList : Value → Bool
  | .texts list => list.isEmpty
  | .ints list => list.isEmpty
  | .tokens list => list.isEmpty
  | .mappings list => list.isEmpty
  | .libraryRoots list => list.isEmpty
  | _ => false

/-- Only an empty list and a text that is no duration supply nothing. -/
theorem ofFile_eq_none_iff {s : Setting} {given : Value} :
    ofFile values s given = none ↔
      given.isEmptyList = true ∨
        s.kind = .duration ∧ ∃ raw, given = .text raw ∧ (Duration.read raw).toOption = none := by
  cases given with
  | text raw =>
      by_cases timed : s.kind = .duration
      · rw [ofFile_duration timed, Option.map_eq_none_iff]
        simp [isEmptyList, timed]
      · rw [ofFile_text timed]
        simp only [isEmptyList, timed]
        split
        · simp
        · split <;> simp
  | texts list | ints list | tokens list | mappings list | libraryRoots list =>
      simp only [ofFile, isEmptyList]
      repeat' split
      all_goals simp_all
  | _ => simp [ofFile, isEmptyList]

/-- A value in place of the one below it; a table is added to a table. -/
def onto (below : Value) : Value → Value
  | .table more =>
      match below with
      | .table start =>
          .table (more.foldl (fun built entry => Table.put entry.1 entry.2 built) start)
      | _ => .table more
  | v => v

def fromKey (values : String → Option String) (f : File) (k : FileKey) : Option Value :=
  (f.value k).bind (ofFile values k.setting)

end Value

/-! ## Merging follows it -/

namespace File

theorem yields_expandRoot {root result : LibraryRoot} :
    Yields values (expandRoot root) result ↔
      { root with path := expanded values root.path } = result := by
  simp [expandRoot]

variable {k : FileKey} {below : Value} {v : Option Value}

theorem yields_resolve_duration (timed : k.setting.kind = .duration) {raw : String} :
    Yields values (resolve k below (.text raw)) v ↔
      ∃ d, Duration.read raw = .ok d ∧ some (.duration d) = v := by
  unfold resolve
  simp only [timed]
  cases read : Duration.read raw <;> simp

theorem yields_resolve_text (notTimed : k.setting.kind ≠ .duration) {raw : String} :
    Yields values (resolve k below (.text raw)) v ↔
      Value.ofFile values k.setting (.text raw) = v := by
  rw [Value.ofFile_text notTimed]
  simp only [resolve]
  split
  · exact yields_pure
  · split <;> simp

theorem yields_resolve_texts {list : List String} :
    Yields values (resolve k below (.texts list)) v ↔
      Value.ofFile values k.setting (.texts list) = v := by
  simp only [resolve, Value.ofFile]
  split
  · exact yields_pure
  · split <;> exact yields_pure

theorem yields_resolve_libraryRoots {list : List LibraryRoot} :
    Yields values (resolve k below (.libraryRoots list)) v ↔
      Value.ofFile values k.setting (.libraryRoots list) = v := by
  simp only [resolve, Value.ofFile]
  split
  · exact yields_pure
  · simp [yields_mapM fun _ _ => yields_expandRoot]

theorem yields_resolve_table {more : Table} :
    Yields values (resolve k below (.table more)) v ↔
      some (Value.onto below (.table more)) = v := by
  simp only [resolve, Value.onto]
  cases below <;> exact yields_pure

/-- Merging a key follows the rule, and only a text that is no duration cannot be merged. -/
theorem yields_resolve {given : Value} :
    Yields values (resolve k below given) v ↔
      (k.setting.kind = .duration → ∀ raw, given = .text raw → ∃ d, Duration.read raw = .ok d) ∧
        (Value.ofFile values k.setting given).map (Value.onto below) = v := by
  cases given with
  | text raw =>
      by_cases timed : k.setting.kind = .duration
      · rw [yields_resolve_duration timed, Value.ofFile_duration timed]
        cases read : Duration.read raw <;> simp [timed, read, Value.onto, Except.toOption]
      · rw [yields_resolve_text timed, Value.ofFile_text timed]
        simp only [timed, false_implies, true_and]
        -- A text replaces what stands below it, whichever of the three it is.
        split
        · rfl
        · split <;> rfl
  | texts list =>
      rw [yields_resolve_texts, Value.ofFile]
      split
      · simp
      · split <;> simp [Value.onto]
  | ints list | tokens list | mappings list =>
      simp only [resolve, Value.ofFile]
      split <;> simp [Value.onto]
  | libraryRoots list =>
      rw [yields_resolve_libraryRoots, Value.ofFile]
      split <;> simp [Value.onto]
  | table more => simp [yields_resolve_table, Value.ofFile]
  | _ => simp [resolve, Value.ofFile, Value.onto]

end File

/-! ## Its values are of the setting's kind -/

namespace Setting

theorem isCommaList_iff {s : Setting} : s.isCommaList = true ↔ s.form = .listOfTexts := by
  cases s <;> decide

theorem isCommaList_eq_false {s : Setting} (form : s.form ≠ .listOfTexts) :
    s.isCommaList = false := by
  rw [← Bool.not_eq_true, isCommaList_iff]
  exact form

theorem kind_of_isCommaList {s : Setting} (joined : s.isCommaList = true) : s.kind = .text := by
  cases s <;> first | rfl | exact absurd joined (by decide)

theorem kind_of_textOrNumber {s : Setting} (either : s.form = .textOrNumber) :
    s.kind = .text ∨ s.kind = .duration := by
  cases s <;> first | exact Or.inl rfl | exact Or.inr rfl | exact absurd either (by decide)

/-- A value in the file is the text of a duration, a list to be joined, or of the setting's kind. -/
theorem Admits.cases {s : Setting} {v : LayeredConfig.Value} (fits : s.Admits v) :
    (s.kind = .duration ∧ ∃ t, v = .text t) ∨
      (s.isCommaList = true ∧ ∃ list, v = .texts list) ∨
        (s.kind ≠ .duration ∧ s.isCommaList = false ∧ v.IsOf s.kind) := by
  unfold Admits at fits
  cases form : s.form with
  | asHeld =>
      have apart := isCommaList_eq_false (s := s) (by simp [form])
      simp only [form] at fits
      cases kind : s.kind <;> cases v <;> simp_all [Kind.Holds, Value.IsOf, Kind.ofValue]
  | textOrNumber =>
      have apart := isCommaList_eq_false (s := s) (by simp [form])
      simp only [form] at fits
      obtain ⟨t, rfl⟩ := fits
      rcases kind_of_textOrNumber form with kind | kind
      · refine Or.inr (Or.inr ⟨?_, apart, ?_⟩) <;> rw [kind]
        · exact Kind.noConfusion
        · rfl
      · exact Or.inl ⟨kind, t, rfl⟩
  | listOfTexts =>
      simp only [form] at fits
      exact Or.inr (Or.inl ⟨isCommaList_iff.mpr form, fits⟩)

end Setting

namespace Value

theorem IsOf.text {a : String} {k : Kind} (fits : (Value.text a).IsOf k) (b : String) :
    (Value.text b).IsOf k := by
  cases k <;> first | rfl | contradiction

theorem IsOf.onto {v : Value} {k : Kind} (fits : v.IsOf k) (below : Value) :
    (onto below v).IsOf k := by
  cases v with
  | table more => cases k <;> first | contradiction | (cases below <;> rfl)
  | _ => exact fits

/-- Only a table depends on the value below. -/
theorem IsOf.onto_eq {v : Value} {k : Kind} (fits : v.IsOf k) (flat : k ≠ .table) (below : Value) :
    Value.onto below v = v := by
  cases v with
  | table more => cases k <;> contradiction
  | _ => rfl

theorem isOf_of_ofFile {s : Setting} {given v : Value} (fits : s.Admits given)
    (found : ofFile values s given = some v) : v.IsOf s.kind := by
  rcases fits.cases with ⟨timed, raw, rfl⟩ | ⟨joined, list, rfl⟩ | ⟨notTimed, apart, held⟩
  · rw [ofFile_duration timed] at found
    obtain ⟨d, _, rfl⟩ := Option.map_eq_some_iff.mp found
    rw [timed]
    rfl
  · rw [ofFile, if_pos joined] at found
    split at found
    · contradiction
    · cases found
      rw [Setting.kind_of_isCommaList joined]
      rfl
  · cases given with
    | text raw =>
        rw [ofFile_text notTimed] at found
        split at found
        · cases found
          exact held.text _
        · split at found <;> cases found <;> exact held.text _
    | texts list =>
        rw [ofFile, apart] at found
        split at found <;> cases found
        exact held
    | libraryRoots list =>
        rw [ofFile] at found
        split at found <;> cases found
        cases kind : s.kind <;> rw [kind] at held <;> first | rfl | contradiction
    | ints list | tokens list | mappings list =>
        rw [ofFile] at found
        split at found <;> cases found
        exact held
    | _ =>
        cases found
        exact held

theorem eq_table_of_ofFile {s : Setting} {given : Value} {t : Table}
    (found : ofFile values s given = some (.table t)) : given = .table t := by
  cases given with
  | text raw =>
      unfold ofFile at found
      simp only at found
      repeat' split at found
      all_goals simp at found
  | texts list | ints list | tokens list | mappings list | libraryRoots list =>
      unfold ofFile at found
      repeat' split at found
      all_goals simp at found
  | _ => exact Option.some.inj found

theorem sorted_of_ofFile {s : Setting} {given : Value} {t : Table} (fits : s.Admits given)
    (found : ofFile values s given = some (.table t)) : t.Sorted := by
  cases eq_table_of_ofFile found
  unfold Setting.Admits at fits
  split at fits
  next => cases kind : s.kind <;> rw [kind] at fits <;> first | exact fits | contradiction
  next =>
    obtain ⟨text, same⟩ := fits
    contradiction
  next =>
    obtain ⟨list, same⟩ := fits
    contradiction

end Value

end LayeredConfig
