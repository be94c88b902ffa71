import LayeredConfig.Proofs.Text.Trim
import LayeredConfig.Proofs.Yaml.Stream
import LayeredConfig.Yaml.Tree

/-!
# A label in front of a text

A text that starts with a label, words on one line with a colon and a blank
behind them, is a mapping whose first key is the label.  What comes behind the
blank may be anything: if it is malformed, the document is broken there, but the
first key has been read by then.

Main statement: `Document.root_of_label`.
-/

namespace LayeredConfig.Yaml

/-! ## Letters -/

theorem letter_ne {c d : Char} (letter : c.isAlpha = true) (other : d.isAlpha = false) :
    (c == d) = false := by
  rw [beq_eq_false_iff_ne]
  rintro rfl
  rw [letter] at other
  contradiction

theorem isSpace_letter {c : Char} (letter : c.isAlpha = true) : isSpace c = false := by
  rw [isSpace, letter_ne letter (by decide), letter_ne letter (by decide), Bool.or_self]

theorem isBreak_letter {c : Char} (letter : c.isAlpha = true) : isBreak c = false := by
  have bounds := Text.isAlpha_cases letter
  rw [isBreak, letter_ne letter (by decide), Bool.false_or, isSeparatorBreak,
    Bool.or_eq_false_iff, beq_eq_false_iff_ne, beq_eq_false_iff_ne]
  omega

theorem endsWord_letter {c : Char} (letter : c.isAlpha = true) : endsWord c = false := by
  rw [endsWord, isSpace_letter letter, endsLine, isBreak_letter letter,
    letter_ne letter (by decide), Bool.or_self, Bool.or_self]

/-! ## Labels -/

/-- Letters and blanks on one line, with letters at both ends. -/
structure IsLabel (label : List Char) : Prop where
  inside : (label.all fun c => c.isAlpha || c == ' ') = true
  first : label.head?.any Char.isAlpha = true
  last : label.getLast?.any Char.isAlpha = true
  /-- A key has no more characters than this. -/
  short : label.length ≤ 1024

theorem IsLabel.letter_or_blank {label : List Char} (isLabel : IsLabel label) :
    ∀ c ∈ label, c.isAlpha = true ∨ c = ' ' := by
  intro c member
  have here := List.all_eq_true.mp isLabel.inside c member
  rwa [Bool.or_eq_true, beq_iff_eq] at here

theorem plainFrom_letter {taken : List Char} {gap : Gap} {inGap : Bool} {g : Glyph}
    (letter : g.char.isAlpha = true) (rest : List Glyph) :
    plainFrom false 0 taken gap inGap (g :: rest) =
      plainFrom false 0 (g.char :: gap.text.reverse ++ taken) {} false rest := by
  have noMark : atDocumentMark (g :: rest) = false := by
    simp [atDocumentMark, atMark, peek, letter_ne letter]
  rw [plainFrom]
  simp [isSpace_letter letter, isBreak_letter letter, letter_ne letter, noMark, endsPlain, peek,
    sentinel]

theorem plainFrom_blank {taken : List Char} {gap : Gap} {inGap : Bool} {g : Glyph}
    (sameLine : gap.broken = false) (blank : g.char = ' ') (rest : List Glyph) :
    plainFrom false 0 taken gap inGap (g :: rest) =
      plainFrom false 0 taken { gap with blanks := ' ' :: gap.blanks } true rest := by
  rw [plainFrom]
  simp [blank, isSpace, sameLine, Gap.blank]

theorem plainFrom_colon {taken : List Char} {gap : Gap} {inGap : Bool} {g b : Glyph}
    (colon : g.char = ':') (blank : b.char = ' ') (rest : List Glyph) :
    plainFrom false 0 taken gap inGap (g :: b :: rest) =
      .ok ⟨taken.reverse, g :: b :: rest, gap.broken⟩ := by
  have noMark : atDocumentMark (g :: b :: rest) = false := by
    simp [atDocumentMark, atMark, peek, colon]
  rw [plainFrom]
  simp [colon, isSpace, isBreak, isSeparatorBreak, sentinel, noMark, endsPlain, peek, peekAt,
    blank, endsWord]

/-- Letters and blanks on one line are taken as they stand. -/
theorem exists_of_plainFrom {part : List Glyph}
    (inside : ∀ g ∈ part, g.char.isAlpha = true ∨ g.char = ' ') (taken : List Char) (gap : Gap)
    (inGap : Bool) (sameLine : gap.broken = false) :
    ∃ taken' gap' inGap', gap'.broken = false ∧
      taken'.reverse ++ gap'.blanks.reverse =
        taken.reverse ++ gap.blanks.reverse ++ part.map Glyph.char ∧
      ∀ rest, plainFrom false 0 taken gap inGap (part ++ rest) =
        plainFrom false 0 taken' gap' inGap' rest := by
  induction part generalizing taken gap inGap with
  | nil => exact ⟨taken, gap, inGap, sameLine, by simp, fun _ => rfl⟩
  | cons g more ih =>
      rw [List.forall_mem_cons] at inside
      rcases inside.1 with letter | blank
      · obtain ⟨taken', gap', inGap', same, text, reads⟩ :=
          ih inside.2 (g.char :: gap.text.reverse ++ taken) {} false rfl
        refine ⟨taken', gap', inGap', same, ?_, fun rest => ?_⟩
        · rw [text]
          simp [Gap.text, sameLine]
        · rw [List.cons_append, plainFrom_letter letter, reads]
      · obtain ⟨taken', gap', inGap', same, text, reads⟩ :=
          ih inside.2 taken { gap with blanks := ' ' :: gap.blanks } true sameLine
        refine ⟨taken', gap', inGap', same, ?_, fun rest => ?_⟩
        · rw [text]
          simp [blank]
        · rw [List.cons_append, plainFrom_blank sameLine blank, reads]

/-- A label is read up to the colon behind it. -/
theorem readPlain_label {label : List Glyph} (isLabel : IsLabel (label.map Glyph.char))
    {g b : Glyph} (colon : g.char = ':') (blank : b.char = ' ') (rest : List Glyph) :
    readPlain false 0 (label ++ g :: b :: rest) =
      .ok ⟨label.map Glyph.char, g :: b :: rest, false⟩ := by
  -- The last letter is taken apart: behind it no blank waits that could be dropped.
  obtain ⟨c, isLast, letter⟩ := (Option.any_eq_true _ _).mp isLabel.last
  rw [List.getLast?_map] at isLast
  obtain ⟨z, endsWithZ, rfl⟩ := Option.map_eq_some_iff.mp isLast
  obtain ⟨part, rfl⟩ := List.getLast?_eq_some_iff.mp endsWithZ
  have inside : ∀ g ∈ part, g.char.isAlpha = true ∨ g.char = ' ' := by
    intro g member
    exact isLabel.letter_or_blank g.char (List.mem_map_of_mem (List.mem_append_left _ member))
  obtain ⟨taken, gap, inGap, sameLine, text, reads⟩ :=
    exists_of_plainFrom inside [] {} false rfl
  rw [readPlain, List.append_assoc, reads, List.singleton_append, plainFrom_letter letter,
    plainFrom_colon colon blank]
  have whole : taken.reverse ++ gap.blanks.reverse = part.map Glyph.char := text
  simp [Gap.text, sameLine, ← whole]

/-! ## The first tokens -/

namespace Scan

/-- The pass goes one token on. -/
theorem scanFrom_eq {l skipped fresh following : Scan} {g : Glyph} {gs rest after : List Glyph}
    (skips : l.skipToToken gs = (skipped, g :: rest)) (freshened : skipped.dropStale g = some fresh)
    (inside : g.char ≠ sentinel)
    (step : (fresh.closeBlocks (some g.column)).next g rest = some (following, after))
    (passes : following.missesKey after = false) (shorter : after.length < gs.length) :
    scanFrom l gs = scanFrom following after := by
  have noEnd : (g.char == sentinel) = false := beq_eq_false_iff_ne.mpr inside
  rw [scanFrom, skips]
  simp only [freshened, noEnd, step, passes, shorter]
  rfl

theorem startsPlain_letter (l : Scan) {g : Glyph} (letter : g.char.isAlpha = true)
    (rest : List Glyph) : l.startsPlain (g :: rest) = true := by
  have noMark : ("-?:,[]\x7b\x7d#&*!|>'\"%@".toList.contains g.char) = false := by
    have each : ("-?:,[]\x7b\x7d#&*!|>'\"%@".toList.all fun c => !c.isAlpha) = true := by decide
    rw [List.contains_eq_mem, decide_eq_false_iff_not]
    intro member
    have noLetter := List.all_eq_true.mp each _ member
    rw [letter] at noLetter
    contradiction
  have bounds := Text.isAlpha_cases letter
  have noQuote : (g.char.toNat == 0x60) = false := by
    rw [beq_eq_false_iff_ne]
    omega
  rw [startsPlain]
  simp only [peek, endsWord_letter letter, noMark, noQuote, Bool.or_false, Bool.not_false,
    Bool.true_or]

/-- A letter starts a plain scalar. -/
theorem next_letter (l : Scan) {g : Glyph} (letter : g.char.isAlpha = true) (rest : List Glyph) :
    l.next g rest = (l.saveKey g).bind fun saved =>
      (readPlain (0 < saved.flow) (match saved.indent with | some n => n + 1 | none => 0)
        (g :: rest)).toOption.bind fun plain =>
          some (({ saved with keyAllowed := plain.lineEnded }).emit (.scalar plain.text .plain),
            plain.rest) := by
  rw [next]
  simp [letter_ne letter, atMark, peek, startsPlain_letter l letter]
  rfl

/-- A colon with a blank behind it marks what follows as a value. -/
theorem next_colon (l : Scan) {g b : Glyph} (colon : g.char = ':') (blank : b.char = ' ')
    (rest : List Glyph) :
    l.next g (b :: rest) = (l.valueMark g).map fun marked => (marked, b :: rest) := by
  rw [next]
  simp [colon, blank, atMark, peek, endsWord, isSpace]
  exact Option.map_eq_bind.symm

theorem skipToToken_letter (l : Scan) {g : Glyph} (letter : g.char.isAlpha = true)
    (rest : List Glyph) : l.skipToToken (g :: rest) = (l, g :: rest) := by
  rw [skipToToken, skipToToken.skip]
  simp [isBreak_letter letter, letter_ne letter]

theorem skipToToken_colon (l : Scan) {g : Glyph} (colon : g.char = ':') (rest : List Glyph) :
    l.skipToToken (g :: rest) = (l, g :: rest) := by
  rw [skipToToken, skipToToken.skip]
  simp [colon, isBreak, isSeparatorBreak]

def behindLabel (label : List Char) : Scan :=
  { tokens := [.scalar label .plain], count := 1, keyAllowed := false
    keys := [some { required := false, position := 0, line := 0, index := 0, column := 0 }] }

def behindColon (label : List Char) : Scan :=
  { tokens := [.value, .scalar label .plain, .key, .blockMapping], count := 4, blocks := [0]
    keyAllowed := false }

/-- The tokens that a label and its colon stand for. -/
def opening (label : List Char) : List Token :=
  [.blockMapping, .key, .scalar label .plain, .value]

theorem begins_behindColon (label : List Char) : Begins (opening label) (behindColon label) where
  tokens := List.suffix_rfl
  count := rfl
  keys := by
    intro k member
    rcases List.mem_singleton.mp member with same
    contradiction

end Scan

/-! ## Glyphs on one line -/

namespace Glyph

/-- Characters without a break, numbered. -/
def onLine (index line column : Nat) : List Char → List Glyph
  | [] => []
  | c :: rest => { char := c, index, line, column } :: onLine (index + 1) line (column + 1) rest

theorem map_char_onLine (index line column : Nat) (cs : List Char) :
    (onLine index line column cs).map char = cs := by
  induction cs generalizing index column with
  | nil => rfl
  | cons c rest ih => rw [onLine, List.map_cons, ih]

theorem number_append (index line column : Nat) {cs : List Char}
    (unbroken : ∀ c ∈ cs, isLineFeed c = false ∧ isSeparatorBreak c = false) (tail : List Char) :
    number index line column (cs ++ tail) =
      onLine index line column cs ++
        number (index + cs.length) line (column + cs.length) tail := by
  induction cs generalizing index column with
  | nil => rfl
  | cons c rest ih =>
      rw [List.forall_mem_cons] at unbroken
      have next : ∀ n, n + 1 + rest.length = n + (c :: rest).length := by
        intro n
        rw [List.length_cons]
        omega
      rw [List.cons_append, number, unbroken.1.1, unbroken.1.2, ih _ _ unbroken.2, next, next]
      · rfl
      · rintro more rfl
        exact absurd unbroken.1.1 (by decide)

end Glyph

/-! ## A text with a label in front -/

theorem IsLabel.unbroken {label : List Char} (isLabel : IsLabel label) :
    ∀ c ∈ label, isLineFeed c = false ∧ isSeparatorBreak c = false := by
  intro c member
  rcases isLabel.letter_or_blank c member with letter | rfl
  · have bounds := Text.isAlpha_cases letter
    constructor
    · rw [isLineFeed, letter_ne letter (by decide), letter_ne letter (by decide)]
      simp only [Bool.false_or, beq_eq_false_iff_ne]
      omega
    · have unbroken := isBreak_letter letter
      rw [isBreak, Bool.or_eq_false_iff] at unbroken
      exact unbroken.2
  · decide

namespace Scan

/-- The first token is the label. -/
theorem scanFrom_label {label : List Char} (isLabel : IsLabel label) {g b : Glyph}
    (colon : g.char = ':') (blank : b.char = ' ') (rest : List Glyph) :
    scanFrom {} (Glyph.onLine 0 0 0 label ++ g :: b :: rest) =
      scanFrom (behindLabel label) (g :: b :: rest) := by
  have isOnLine : IsLabel ((Glyph.onLine 0 0 0 label).map Glyph.char) := by
    rwa [Glyph.map_char_onLine]
  have read := readPlain_label isOnLine colon blank rest
  rw [Glyph.map_char_onLine] at read
  cases label with
  | nil => exact absurd isLabel.first (by decide)
  | cons c more =>
      have letter : c.isAlpha = true := isLabel.first
      have start : ({} : Scan).dropStale ⟨c, 0, 0, 0⟩ = some {} := rfl
      have saved : (({} : Scan).closeBlocks (some 0)).saveKey ⟨c, 0, 0, 0⟩ =
          some { keys := (behindLabel (c :: more)).keys } := rfl
      rw [Glyph.onLine, List.cons_append] at read ⊢
      refine scanFrom_eq (skipToToken_letter _ letter _) start ?_ ?_ ?_ ?_
      · exact beq_eq_false_iff_ne.mp (letter_ne letter (by decide))
      · rw [next_letter _ letter, saved, Option.bind_some]
        show (readPlain false 0 _).toOption.bind _ = _
        rw [read]
        rfl
      · simp [missesKey, dropStale, behindLabel]
      · simp only [List.length_append, List.length_cons]
        omega

/-- The colon behind a label makes it the first key of a mapping. -/
theorem scanFrom_behindLabel {label : List Char} {g b : Glyph} (colon : g.char = ':')
    (blank : b.char = ' ') (near : g.line = 0 ∧ g.index ≤ 1024) (rest : List Glyph) :
    scanFrom (behindLabel label) (g :: b :: rest) = scanFrom (behindColon label) (b :: rest) := by
  have fresh : (behindLabel label).dropStale g = some (behindLabel label) := by
    simp [dropStale, behindLabel, isStale, near.1, near.2]
  refine scanFrom_eq (skipToToken_colon _ colon _) fresh ?_ ?_ ?_ ?_
  · rw [colon]
    decide
  · rw [next_colon _ colon blank]
    rfl
  · rfl
  · exact Nat.lt_succ_self _

end Scan

/-- If the characters of a text can be read at all, all of them are numbered. -/
theorem Glyph.ofText_label {label : List Char} (isLabel : IsLabel label) {text : String}
    {tail : List Char} (headed : text.toList = label ++ tail) :
    ofText text = none ∨ ofText text = some (number 0 0 0 (label ++ tail)) := by
  cases label with
  | nil => exact absurd isLabel.first (by decide)
  | cons c more =>
      have bounds := Text.isAlpha_cases isLabel.first
      have noMark : (c.toNat == 0xFEFF) = false := by
        rw [beq_eq_false_iff_ne]
        omega
      unfold ofText
      rw [headed, List.cons_append]
      simp only [noMark, Bool.false_eq_true, if_false]
      split
      · exact Or.inr rfl
      · exact Or.inl rfl

/-- The tokens of a text with a label in front begin with the key, whatever follows. -/
theorem Token.ofText_label {label : List Char} (isLabel : IsLabel label) {text : String}
    {tail : List Char} (headed : text.toList = label ++ ':' :: ' ' :: tail) :
    ofText text = [.bad] ∨ Scan.opening label <+: ofText text := by
  unfold ofText
  rcases Glyph.ofText_label isLabel headed with none | numbered
  · rw [none]
    exact Or.inl rfl
  · have marks (n : Nat) : Glyph.number n 0 n (':' :: ' ' :: tail) =
        ⟨':', n, 0, n⟩ :: ⟨' ', n + 1, 0, n + 1⟩ :: Glyph.number (n + 2) 0 (n + 2) tail := rfl
    have near : 0 + label.length ≤ 1024 := by
      rw [Nat.zero_add]
      exact isLabel.short
    rw [numbered, Glyph.number_append _ _ _ isLabel.unbroken, marks]
    simp only
    rw [Scan.scanFrom_label isLabel rfl rfl, Scan.scanFrom_behindLabel rfl rfl ⟨rfl, near⟩,
      ← List.reverse_suffix, List.reverse_reverse]
    exact Or.inr ((Scan.begins_behindColon label).suffix_scanFrom _)

/-! ## The document -/

namespace Node

theorem readEntries_key (steps : Nat) (label : List Char) (a : Ahead) :
    ∃ value entries, (readEntries (steps + 3)
      { a with tokens := .key :: .scalar label .plain :: .value :: a.tokens }).1 =
        (.scalar {} label .plain, value) :: entries :=
  ⟨_, _, rfl⟩

theorem readNode_blockMapping (steps : Nat) (a : Ahead) :
    readNode (steps + 1) true false { a with tokens := .blockMapping :: a.tokens } =
      (.mapping {} (readEntries steps a).1, (readEntries steps a).2) := rfl

/-- The first entry is read in front of whatever follows. -/
theorem first_opening (label : List Char) (more : List Token) :
    ∃ value entries, (first (Scan.opening label ++ more)).root =
      some (.mapping {} ((.scalar {} label .plain, value) :: entries)) := by
  let content : Ahead := { tokens := more, handles := standardHandles }
  let inside : Ahead :=
    { content with tokens := .key :: .scalar label .plain :: .value :: content.tokens }
  obtain ⟨value, entries, read⟩ := readEntries_key (3 * more.length + 11) label content
  have enough : 3 * (Scan.opening label ++ more).length + 3 = 3 * more.length + 11 + 3 + 1 := by
    simp only [Scan.opening, List.length_append, List.length_cons, List.length_nil]
    omega
  refine ⟨value, entries, ?_⟩
  show some (readNode (3 * (Scan.opening label ++ more).length + 3) true false
    { inside with tokens := .blockMapping :: inside.tokens }).1 = _
  rw [enough, readNode_blockMapping, read]

theorem expand_scalar (table : List (Nat × Node)) (limit depth : Nat) (marks : Marks)
    (text : List Char) (style : Style) :
    expand table limit depth (.scalar marks text style) = pure (.scalar marks.tag text style) := by
  cases depth <;> rfl

end Node

/-- The first entry of a mapping is expanded in front of the others. -/
theorem Tree.ofNode_mapping (label : List Char) (value : Node) (entries : List (Node × Node)) :
    ∃ valueTree trees, ofNode (.mapping {} ((.scalar {} label .plain, value) :: entries)) =
      .mapping none ((.scalar none label .plain, valueTree) :: trees) := by
  unfold ofNode
  generalize Node.anchored _ = table
  generalize 100 * Node.size _ = limit
  have deep : maxDepth = 127 + 1 := rfl
  rw [deep, Node.expand]
  simp only [Node.follow, List.mapM_cons, Node.expand_scalar, pure_bind]
  exact ⟨_, _, rfl⟩

/-- The root of a text with a label in front is a mapping whose first key is the label, or the text
cannot be read at all. -/
theorem Document.root_of_label {label : List Char} (isLabel : IsLabel label) {text : String}
    {tail : List Char} (headed : text.toList = label ++ ':' :: ' ' :: tail) :
    (ofText text).root = some .broken ∨
      ∃ value entries,
        (ofText text).root =
          some (.mapping none ((.scalar none label .plain, value) :: entries)) := by
  unfold ofText Node.ofText
  rcases Token.ofText_label isLabel headed with bad | ⟨more, whole⟩
  · rw [bad]
    exact Or.inl rfl
  · obtain ⟨value, entries, read⟩ := Node.first_opening label more
    obtain ⟨valueTree, trees, expanded⟩ := Tree.ofNode_mapping label value entries
    refine Or.inr ⟨valueTree, trees, ?_⟩
    rw [← whole]
    simp only
    rw [read, Option.map_some, expanded]

end LayeredConfig.Yaml
