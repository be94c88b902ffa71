import LayeredConfig.Proofs.Agreement

/-!
# Checked texts of one setting

The address and the credentials of the receiver are texts.  The checks compare
texts with their references replaced.  The file is merged in this form too, but
the text of a variable is taken as it is.  So the checks make sure that the
compared forms agree, not that the merged texts do.  The merged texts agree
exactly if no reference stands in the way, or if both are the same reference.

Main statements: `Source.applied_eq_iff`, and the counterexample
`Source.references_disagree`.
-/

namespace LayeredConfig

open Text Reading Success Alias

variable {values : String → Option String} {f : File} {p : Presence} {s : Setting}

/-- The receiver settings with two names that are texts. -/
def Setting.textAliases : List Setting := [.receiverBaseUrl, .receiverUsername, .receiverPassword]

theorem Setting.facts_of_text (textual : s ∈ textAliases) :
    s ∈ receiverAliases ∧ s.kind = .text ∧ s.olderCountsMillis = false ∧ s.isExpanded = true ∧
      s.isCommaList = false ∧ s ≠ .receiverAuthMode := by
  have each : ∀ s ∈ textAliases, s ∈ receiverAliases ∧ s.kind = .text ∧
      s.olderCountsMillis = false ∧ s.isExpanded = true ∧ s.isCommaList = false ∧
        s ≠ .receiverAuthMode := by decide
  exact each s textual

theorem Setting.cases_of_alias (double : s ∈ receiverAliases) :
    s ∈ textAliases ∨ s ∈ typedAliases := by
  have each : ∀ s ∈ receiverAliases, s ∈ textAliases ∨ s ∈ typedAliases := by decide
  exact each s double

theorem Alias.normalText_trim (raw : String) :
    normalText values (String.ofList (trim raw.toList)) = normalText values raw := by
  simp only [normalText, expanded, String.toList_ofList]
  rw [Reference.trim_meaning_trim]

namespace Source

/-- Is the source a variable?  The text of one is taken as it is. -/
def isVariable : Source → Bool
  | .primary | .legacy => true
  | .own | .older => false

/-- The form in which a text that a source sets was compared. -/
def comparedForm (values : String → Option String) (source : Source) (text : String) : List Char :=
  if source.isVariable then trim (expanded values text).toList else trim text.toList

/-- The text was compared as it is set, up to blanks around it. -/
def IsSettled (values : String → Option String) (source : Source) (text : String) : Prop :=
  source.comparedForm values text = trim text.toList

/-! ## What the checks see of a text -/

theorem normal_of_variable {source : Source} (ofVariable : source.isVariable = true) (t : String) :
    normalText values (String.ofList (trim t.toList)) =
      String.ofList (source.comparedForm values t) := by
  rw [normalText_trim, comparedForm, if_pos ofVariable, normalText]

/-- A key supplies its text with the references replaced. -/
theorem replaced_of_key (formed : f.WellFormed) {k : FileKey} {v : Value}
    (found : Value.fromKey values f k = some v) (textual : k.setting ∈ Setting.textAliases) :
    ∃ raw, f.value k = some (.text raw) ∧ v = .text (expanded values raw) := by
  obtain ⟨_, kind, _, replaced, apart, noMode⟩ := Setting.facts_of_text textual
  obtain ⟨raw, present, same⟩ := raw_of_fromKey formed found kind apart noMode
  rw [if_pos replaced] at same
  exact ⟨raw, present, same⟩

theorem text_of_key (formed : f.WellFormed) {k : FileKey} {t : String}
    (found : Value.fromKey values f k = some (.text t))
    (textual : k.setting ∈ Setting.textAliases) :
    ∃ raw, f.value k = some (.text raw) ∧
      normalText values raw = String.ofList (trim t.toList) := by
  obtain ⟨raw, present, same⟩ := replaced_of_key formed found textual
  cases same
  exact ⟨raw, present, rfl⟩

/-! ## Agreement -/

theorem comparedForm_eq_of_normal {a b : Source} {x y t u : String}
    (same : (normalText values x == normalText values y) = true)
    (first : normalText values x = String.ofList (a.comparedForm values t))
    (second : normalText values y = String.ofList (b.comparedForm values u)) :
    a.comparedForm values t = b.comparedForm values u := by
  have equal := eq_of_beq same
  rw [first, second] at equal
  exact String.ofList_inj.mp equal

theorem comparedForm_eq (formed : f.WellFormed) (agrees : Agrees values f s)
    (textual : s ∈ Setting.textAliases) {a b : Source} (underOlder : a.isOlder = true)
    (underNewer : b.isOlder = false) {t u : String} (first : a.supply values f s = some (.text t))
    (second : b.supply values f s = some (.text u)) :
    a.comparedForm values t = b.comparedForm values u := by
  obtain ⟨double, kind, _⟩ := Setting.facts_of_text textual
  -- One source under each name: four pairs, and each has a check of its own.
  cases a with
  | primary => contradiction
  | own => contradiction
  | legacy =>
      have seen := compared_of_fromOlderVariable double first
      cases b with
      | legacy => contradiction
      | older => contradiction
      | primary =>
          have same := agrees.ofVariables _ _ seen (compared_of_fromVariable double second)
          exact comparedForm_eq_of_normal (yields_sameText.mp same) (normal_of_variable rfl t)
            (normal_of_variable rfl u)
      | own =>
          obtain ⟨x, present, normalX⟩ := text_of_key formed second textual
          have same := agrees.ownKey (isSome_of_fromKey second) _ seen
          rw [present] at same
          have agree : Source.own.comparedForm values u = Source.legacy.comparedForm values t :=
            comparedForm_eq_of_normal (yields_sameText.mp same) normalX (normal_of_variable rfl t)
          exact agree.symm
  | older =>
      obtain ⟨x, presentX, normalX⟩ := text_of_key formed first textual
      cases b with
      | legacy => contradiction
      | older => contradiction
      | primary =>
          have seen := compared_of_fromVariable double second
          have same := agrees.olderKey (isSome_of_fromKey first) _ seen
          rw [presentX] at same
          exact comparedForm_eq_of_normal (yields_sameText.mp same) normalX
            (normal_of_variable rfl u)
      | own =>
          obtain ⟨y, presentY, normalY⟩ := text_of_key formed second textual
          have same := agrees.keys (isSome_of_fromKey first) (isSome_of_fromKey second)
          unfold sameInFile at same
          rw [presentX, presentY] at same
          simp only [kind] at same
          exact comparedForm_eq_of_normal (yields_sameText.mp same) normalX normalY

/-- The texts of keys are compared as they are set. -/
theorem isSettled_of_key {source : Source} (inFile : source.isVariable = false) (text : String) :
    source.IsSettled values text := by
  rw [IsSettled, comparedForm, inFile]
  rfl

/-- A text without a reference is compared as it is set. -/
theorem isSettled_of_free (source : Source) {text : String} (free : '$' ∉ text.toList) :
    source.IsSettled values text := by
  rw [IsSettled, comparedForm, expanded_eq_self free, ite_self]

/-- If the checks pass, the compared forms of two texts under different names agree.  So the texts
themselves agree exactly if both were compared as they are set, or if both were not and are the
same. -/
theorem applied_eq_iff {origin text : String} (decoded : File.decode origin text = .ok f)
    (recorded : p.Records f) (passes : Passes values f p) (textual : s ∈ Setting.textAliases)
    {a b : Source} (differ : a.isOlder ≠ b.isOlder) {t u : String}
    (first : a.Sets values f s (.text t)) (second : b.Sets values f s (.text u)) :
    a.comparedForm values t = b.comparedForm values u ∧
      (trim t.toList = trim u.toList ↔
        (a.IsSettled values t ∧ b.IsSettled values u) ∨
          (¬a.IsSettled values t ∧ ¬b.IsSettled values u ∧ trim t.toList = trim u.toList)) := by
  have formed := File.wellFormed_of_decode decoded
  obtain ⟨double, _⟩ := Setting.facts_of_text textual
  have agrees := passes.agrees (File.encloses_of_decode decoded) recorded double
  have suppliedFirst := (sets_iff formed double).mp first
  have suppliedSecond := (sets_iff formed double).mp second
  have compared : a.comparedForm values t = b.comparedForm values u := by
    rcases isOlder_cases differ with ⟨underOlder, underNewer⟩ | ⟨underOlder, underNewer⟩
    · exact comparedForm_eq formed agrees textual underOlder underNewer suppliedFirst
        suppliedSecond
    · exact (comparedForm_eq formed agrees textual underOlder underNewer suppliedSecond
        suppliedFirst).symm
  refine ⟨compared, ?_, ?_⟩
  · intro same
    by_cases settled : a.IsSettled values t
    · refine Or.inl ⟨settled, ?_⟩
      rw [IsSettled, ← compared, settled, same]
    · refine Or.inr ⟨settled, fun other => settled ?_, same⟩
      rw [IsSettled, compared, other, same]
  · rintro (⟨settledFirst, settledSecond⟩ | ⟨_, _, same⟩)
    · rw [← settledFirst, compared, settledSecond]
    · exact same

/-- A password that the file refers to agrees with the same one in the older variable. -/
theorem applied_eq_iff_password :
    let env : Environment := ⟨[("SECRET", "word"), ("XG2G_OWI_PASS", "word ")]⟩
    ∃ f, File.decode "config" "enigma2:\n  password: $SECRET\n" = .ok f ∧
      Source.legacy.Sets env.get? f .receiverPassword (.text "word ") ∧
        Source.own.Sets env.get? f .receiverPassword (.text "word") ∧
          trim "word ".toList = trim "word".toList := by
  intro env
  let p : Presence := { canonical := ["password"] }
  obtain ⟨f, decoded, facts⟩ := exists_ok_of_any
    (File.decode "config" "enigma2:\n  password: $SECRET\n")
    (fun f =>
      decide (p.Records f) && decide (Passes env.get? f p) &&
        decide (Source.legacy.supply env.get? f .receiverPassword = some (.text "word ")) &&
        decide (Source.own.supply env.get? f .receiverPassword = some (.text "word")))
    (by decide +kernel)
  simp only [Bool.and_eq_true, decide_eq_true_eq] at facts
  obtain ⟨⟨⟨recorded, passes⟩, legacy⟩, own⟩ := facts
  have double : Setting.receiverPassword ∈ Setting.receiverAliases := by decide
  have formed := File.wellFormed_of_decode decoded
  have setsLegacy := (sets_iff formed double).mpr legacy
  have setsOwn := (sets_iff formed double).mpr own
  obtain ⟨_, agree⟩ := applied_eq_iff decoded recorded passes (s := .receiverPassword) (by decide)
    (by decide) setsLegacy setsOwn
  exact ⟨f, decoded, setsLegacy, setsOwn,
    agree.mpr (Or.inl ⟨isSettled_of_free _ (by decide), isSettled_of_key rfl _⟩)⟩

/-- Two references to different variables pass the checks where the variables are missing, and are
set as they are: the texts that are set do not agree. -/
theorem references_disagree :
    let env : Environment := ⟨[("XG2G_E2_PASS", "$B"), ("XG2G_OWI_PASS", "$A")]⟩
    File.decode "config" "" = .ok .empty ∧ Presence.Records {} .empty ∧
      Passes env.get? .empty {} ∧
        Source.legacy.Sets env.get? .empty .receiverPassword (.text "$A") ∧
          Source.primary.Sets env.get? .empty .receiverPassword (.text "$B") ∧
            trim "$A".toList ≠ trim "$B".toList := by
  intro env
  have double : Setting.receiverPassword ∈ Setting.receiverAliases := by decide
  have noDocument : (Yaml.Document.ofText "").root = none :=
    Option.isNone_iff_eq_none.mp (by decide +kernel)
  refine ⟨by rw [File.decode, noDocument], by decide, by decide +kernel, ?_, ?_, by decide⟩
  · rw [sets_iff File.wellFormed_empty double]
    decide +kernel
  · rw [sets_iff File.wellFormed_empty double]
    decide +kernel

end Source

end LayeredConfig
