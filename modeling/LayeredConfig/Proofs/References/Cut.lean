import LayeredConfig.Proofs.References
import LayeredConfig.Proofs.Text.Pattern

/-!
# How a text is cut into references and the rest

A reference is written with braces around the name, or without them and then with
the longest name that stands there.  From the left, a text is cut into references
wherever one starts and into single characters elsewhere.  There is one such cut
of every text.  What the text stands for is put together from it in one pass, and
the variables that are asked for are those that the cut names.

Main statements: `Reference.IsCut.unique`, `Reference.run_expand`, `expand_along_cut`.
-/

namespace LayeredConfig

open Text

namespace Reference

/-! ## Names -/

/-- A letter or an underscore, and letters, digits and underscores behind it. -/
def IsName (cs : List Char) : Prop :=
  (∃ c ∈ cs.head?, opensName c = true) ∧ ∀ c ∈ cs, inName c = true

variable {name rest cs : List Char} {values : String → Option String}

theorem inName_of_opensName {c : Char} (opens : opensName c = true) : inName c = true := by
  simp only [opensName, inName, Char.isAlphanum, Bool.or_eq_true] at opens ⊢
  exact opens.imp_left Or.inl

theorem IsName.exists_cons (isName : IsName name) :
    ∃ c tail, name = c :: tail ∧ opensName c = true := by
  obtain ⟨⟨c, first, opens⟩, _⟩ := isName
  obtain ⟨tail, rfl⟩ := List.head?_eq_some_iff.mp first
  exact ⟨c, tail, rfl, opens⟩

/-- A brace opens no name. -/
theorem IsName.append_ne_brace (isName : IsName name) (rest inside : List Char) :
    name ++ rest ≠ '\x7b' :: inside := by
  obtain ⟨c, tail, rfl, opens⟩ := isName.exists_cons
  intro same
  cases (List.cons.inj same).1
  exact absurd opens (by decide)

/-- A name ends in front of a closing brace. -/
theorem stopsAt_brace (rest : List Char) : Pattern.StopsAt inName ('\x7d' :: rest) := by
  intro c first
  cases first
  decide

/-- The longest name in front of a text is the only one behind which no name goes on. -/
theorem readName_eq_some_iff :
    readName cs = some (name, rest) ↔
      IsName name ∧ cs = name ++ rest ∧ Pattern.StopsAt inName rest := by
  constructor
  · intro found
    cases cs with
    | nil => cases found
    | cons c tail =>
        simp only [readName] at found
        split at found
        next opens =>
          obtain ⟨rfl, rfl⟩ := Prod.mk.inj (Option.some.inj found)
          have begins : (c :: tail).takeWhile inName = c :: tail.takeWhile inName :=
            List.takeWhile_cons_of_pos (inName_of_opensName opens)
          refine ⟨⟨⟨c, by rw [begins]; rfl, opens⟩, fun d member => ?_⟩,
            List.takeWhile_append_dropWhile.symm, fun d first => ?_⟩
          · exact List.all_eq_true.mp List.all_takeWhile d member
          · have stop := List.head?_dropWhile_not inName (c :: tail)
            rw [Option.mem_def.mp first] at stop
            simpa using stop
        next => cases found
  · rintro ⟨isName, rfl, stops⟩
    obtain ⟨front, back⟩ := Pattern.span_append isName.2 stops
    obtain ⟨c, tail, rfl, opens⟩ := isName.exists_cons
    rw [List.cons_append] at front back ⊢
    rw [readName, if_pos opens, front, back]

/-- A reference behind a dollar sign is a name in braces or the longest name that stands there. -/
theorem read_eq_some_iff {word : String} :
    read cs = some (word, rest) ↔
      ∃ name, word = String.ofList name ∧ IsName name ∧
        (cs = '\x7b' :: (name ++ '\x7d' :: rest) ∨
          cs = name ++ rest ∧ Pattern.StopsAt inName rest) := by
  constructor
  · intro found
    unfold read at found
    split at found
    next inside =>
      cases within : readName inside with
      | none => simp [within] at found
      | some pair =>
          obtain ⟨name, after⟩ := pair
          obtain ⟨isName, rfl, _⟩ := readName_eq_some_iff.mp within
          rw [within] at found
          cases after with
          | nil => cases found
          | cons d tail =>
              by_cases closes : d = '\x7d'
              · subst closes
                obtain ⟨rfl, rfl⟩ := Prod.mk.inj (Option.some.inj found)
                exact ⟨name, rfl, isName, Or.inl rfl⟩
              · simp [closes] at found
    next =>
      obtain ⟨⟨name, after⟩, bare, same⟩ := Option.map_eq_some_iff.mp found
      obtain ⟨rfl, rfl⟩ := Prod.mk.inj same
      obtain ⟨isName, whole, stops⟩ := readName_eq_some_iff.mp bare
      exact ⟨name, rfl, isName, Or.inr ⟨whole, stops⟩⟩
  · rintro ⟨name, rfl, isName, rfl | ⟨rfl, stops⟩⟩
    · have within : readName (name ++ '\x7d' :: rest) = some (name, '\x7d' :: rest) :=
        readName_eq_some_iff.mpr ⟨isName, rfl, stopsAt_brace rest⟩
      simp [read, within]
    · have bare : readName (name ++ rest) = some (name, rest) :=
        readName_eq_some_iff.mpr ⟨isName, rfl, stops⟩
      obtain ⟨c, tail, rfl, opens⟩ := isName.exists_cons
      have noBrace : c ≠ '\x7b' := by
        rintro rfl
        exact absurd opens (by decide)
      rw [List.cons_append] at bare ⊢
      rw [read_of_ne_brace noBrace, bare, Option.map_some]

/-! ## Cuts -/

/-- A stretch of text as it is written: a character, or a reference without or with braces. -/
inductive Stretch where
  | literal (c : Char)
  | bare (name : List Char)
  | braced (name : List Char)
  deriving DecidableEq, Repr

namespace Stretch

def text : Stretch → List Char
  | .literal c => [c]
  | .bare name => '$' :: name
  | .braced name => '$' :: '\x7b' :: (name ++ ['\x7d'])

/-- What a stretch is, no matter how a reference is written. -/
def piece : Stretch → Piece
  | .literal c => .literal c
  | .bare name | .braced name => .name (String.ofList name)

end Stretch

def Piece.asks : Piece → Option String
  | .literal _ => none
  | .name name => some name

/-- With a dollar sign in front the text starts with a reference. -/
def Opens (cs : List Char) : Prop :=
  ∃ name rest, IsName name ∧ (cs = name ++ rest ∨ cs = '\x7b' :: (name ++ '\x7d' :: rest))

/-- The stretch may be cut off in front of the rest: no reference is cut apart, and no name goes on
behind a reference without braces. -/
def Stretch.FitsBefore (rest : List Char) : Stretch → Prop
  | .literal c => c = '$' → ¬Opens rest
  | .bare name => IsName name ∧ Pattern.StopsAt inName rest
  | .braced name => IsName name

/-- A cut of a text from the left. -/
inductive IsCut : List Stretch → List Char → Prop
  | nil : IsCut [] []
  | cons {s : Stretch} {others : List Stretch} {rest : List Char} :
      s.FitsBefore rest → IsCut others rest → IsCut (s :: others) (s.text ++ rest)

/-- A reference starts exactly where one is read. -/
theorem opens_iff : Opens cs ↔ ∃ word rest, read cs = some (word, rest) := by
  constructor
  · rintro ⟨name, rest, isName, rfl | rfl⟩
    · -- the name may go on behind the one that is given
      obtain ⟨c, tail, rfl, opens⟩ := isName.exists_cons
      have bare : readName (c :: tail ++ rest) = some ((c :: tail ++ rest).takeWhile inName,
          (c :: tail ++ rest).dropWhile inName) := if_pos opens
      obtain ⟨longest, whole, stops⟩ := readName_eq_some_iff.mp bare
      exact ⟨_, _, read_eq_some_iff.mpr ⟨_, rfl, longest, Or.inr ⟨whole, stops⟩⟩⟩
    · exact ⟨_, _, read_eq_some_iff.mpr ⟨name, rfl, isName, Or.inl rfl⟩⟩
  · rintro ⟨word, rest, found⟩
    obtain ⟨name, _, isName, whole | ⟨whole, _⟩⟩ := read_eq_some_iff.mp found
    · exact ⟨name, rest, isName, Or.inr whole⟩
    · exact ⟨name, rest, isName, Or.inl whole⟩

/-- Two names that are followed by no character of a name are the same. -/
theorem append_inj_of_stopsAt {name' rest' : List Char} (isName : IsName name)
    (isName' : IsName name') (stops : Pattern.StopsAt inName rest)
    (stops' : Pattern.StopsAt inName rest') (same : name ++ rest = name' ++ rest') :
    name = name' ∧ rest = rest' := by
  have first := readName_eq_some_iff.mpr ⟨isName, rfl, stops⟩
  have second := readName_eq_some_iff.mpr ⟨isName', rfl, stops'⟩
  rw [same] at first
  exact Prod.mk.inj (Option.some.inj (first.symm.trans second))

namespace Stretch

variable {s s' : Stretch} {rest' : List Char}

/-- A dollar sign that is cut off alone starts no reference. -/
theorem FitsBefore.not_literal (fits : s.FitsBefore rest) {c : Char}
    (alone : (literal c).FitsBefore rest') (same : s.text ++ rest = c :: rest') :
    s = .literal c := by
  cases s with
  | literal d => rw [(List.cons.inj same).1]
  | bare name =>
      obtain ⟨rfl, rfl⟩ := List.cons.inj same
      exact absurd ⟨name, rest, fits.1, Or.inl rfl⟩ (alone rfl)
  | braced name =>
      obtain ⟨rfl, rfl⟩ := List.cons.inj same
      exact absurd ⟨name, rest, fits, Or.inr (by simp)⟩ (alone rfl)

/-- What is cut off in front of a text is determined by the text. -/
theorem FitsBefore.unique (fits : s.FitsBefore rest) (fits' : s'.FitsBefore rest')
    (same : s.text ++ rest = s'.text ++ rest') : s = s' ∧ rest = rest' := by
  cases s' with
  | literal c =>
      obtain rfl := fits.not_literal fits' same
      exact ⟨rfl, (List.cons.inj same).2⟩
  | bare name' =>
      cases s with
      | literal c =>
          cases fits'.not_literal fits same.symm
      | bare name =>
          obtain ⟨rfl, rfl⟩ := append_inj_of_stopsAt fits.1 fits'.1 fits.2 fits'.2
            (List.cons.inj same).2
          exact ⟨rfl, rfl⟩
      | braced name =>
          exact absurd (List.cons.inj same).2.symm (fits'.1.append_ne_brace rest' _)
  | braced name' =>
      cases s with
      | literal c =>
          cases fits'.not_literal fits same.symm
      | bare name =>
          exact absurd (List.cons.inj same).2 (fits.1.append_ne_brace rest _)
      | braced name =>
          have inside : name ++ '\x7d' :: rest = name' ++ '\x7d' :: rest' := by
            simpa [text] using same
          obtain ⟨rfl, tail⟩ := append_inj_of_stopsAt fits fits' (stopsAt_brace rest)
            (stopsAt_brace rest') inside
          exact ⟨rfl, (List.cons.inj tail).2⟩

theorem text_ne_nil (s : Stretch) : s.text ≠ [] := by
  cases s <;> exact List.cons_ne_nil _ _

end Stretch

/-- No text has two cuts. -/
theorem IsCut.unique {cut other : List Stretch} (isCut : IsCut cut cs) (isCut' : IsCut other cs) :
    cut = other := by
  induction isCut generalizing other with
  | nil =>
      generalize whole : ([] : List Char) = cs at isCut'
      cases isCut' with
      | nil => rfl
      | @cons s _ _ _ _ => exact absurd (List.append_eq_nil_iff.mp whole.symm).1 s.text_ne_nil
  | @cons s others rest fits _ ih =>
      generalize whole : s.text ++ rest = cs at isCut'
      cases isCut' with
      | nil => exact absurd (List.append_eq_nil_iff.mp whole).1 s.text_ne_nil
      | cons fits' later =>
          obtain ⟨rfl, rfl⟩ := fits.unique fits' whole
          rw [ih later]

/-- The pieces of a text are those of a cut. -/
theorem exists_cut (cs : List Char) : ∃ cut, IsCut cut cs ∧ cut.map Stretch.piece = pieces cs := by
  fun_induction pieces cs with
  | case1 => exact ⟨[], .nil, rfl⟩
  | case2 rest word after found _ ih =>
      obtain ⟨cut, isCut, same⟩ := ih
      obtain ⟨name, rfl, isName, rfl | ⟨rfl, stops⟩⟩ := read_eq_some_iff.mp found
      · have whole : '$' :: '\x7b' :: (name ++ '\x7d' :: after) =
            (Stretch.braced name).text ++ after := by simp [Stretch.text]
        rw [whole]
        exact ⟨.braced name :: cut, .cons isName isCut, by rw [List.map_cons, same]; rfl⟩
      · exact ⟨.bare name :: cut, .cons ⟨isName, stops⟩ isCut, by rw [List.map_cons, same]; rfl⟩
  | case3 rest word after found longer =>
      -- a reference takes at least one character
      refine absurd ?_ longer
      obtain ⟨name, _, isName, rfl | ⟨rfl, _⟩⟩ := read_eq_some_iff.mp found
      · simp only [List.length_cons, List.length_append]
        omega
      · obtain ⟨c, tail, rfl, _⟩ := isName.exists_cons
        simp only [List.length_cons, List.length_append]
        omega
  | case4 rest nothing ih =>
      obtain ⟨cut, isCut, same⟩ := ih
      have closed : ¬Opens rest := by
        rw [opens_iff, nothing]
        rintro ⟨_, _, found⟩
        cases found
      exact ⟨.literal '$' :: cut, .cons (fun _ => closed) isCut, by rw [List.map_cons, same]; rfl⟩
  | case5 c rest noDollar ih =>
      obtain ⟨cut, isCut, same⟩ := ih
      have fits : (Stretch.literal c).FitsBefore rest := fun dollar => absurd dollar noDollar
      exact ⟨.literal c :: cut, .cons fits isCut, by rw [List.map_cons, same]; rfl⟩

/-! ## One pass over the cut -/

theorem run_ask (name : String) : (Reading.ask name).run values =
    { result := .ok (values name), asked := [name] } := rfl

theorem run_pure {α : Type} (a : α) : (pure a : Reading α).run values = { result := .ok a } := rfl

/-- Each name is asked for where it stands and replaced; nothing else happens. -/
theorem run_fill (list : List Piece) :
    (fill list).run values =
      { result := .ok (list.flatMap (Piece.meaning values))
        asked := list.filterMap Piece.asks } := by
  induction list with
  | nil => rfl
  | cons piece rest ih =>
      cases piece with
      | literal c =>
          have silent :
              (Piece.literal c :: rest).filterMap Piece.asks = rest.filterMap Piece.asks :=
            List.filterMap_cons_none rfl
          rw [fill, Reading.run_bind, ih, silent]
          simp [Run.andThen, run_pure, Piece.meaning]
      | name word =>
          simp only [fill, Reading.run_bind, run_ask, ih]
          simp [Run.andThen, run_pure, Piece.meaning, Piece.asks]

/-- Replacing the references goes along the cut. -/
theorem run_expand (values : String → Option String) {cut : List Stretch} {text : String}
    (isCut : IsCut cut text.toList) :
    (expand text).run values =
      { result := .ok (String.ofList (cut.flatMap fun s => s.piece.meaning values))
        asked := cut.filterMap fun s => s.piece.asks } := by
  obtain ⟨other, isCut', same⟩ := exists_cut text.toList
  obtain rfl := isCut.unique isCut'
  rw [expand, Reading.run_bind, ← same, run_fill, List.flatMap_map, List.filterMap_map]
  simp [Run.andThen, run_pure]

/-- A cut without references stands for the text itself. -/
theorem IsCut.flatMap_meaning {cut : List Stretch} (isCut : IsCut cut cs)
    (plain : ∀ s ∈ cut, s.piece.asks = none) :
    (cut.flatMap fun s => s.piece.meaning values) = cs := by
  induction isCut with
  | nil => rfl
  | @cons s others rest _ _ ih =>
      obtain ⟨here, later⟩ := List.forall_mem_cons.mp plain
      rw [List.flatMap_cons, ih later]
      cases s with
      | literal c => rfl
      | bare name | braced name => cases here

end Reference

open Reference in
/-- A text has one cut into references and single characters.  Its references are replaced in one
pass: each gives way to the value of its variable as it stands, or to nothing, all else stays, and
exactly the names in the cut are asked for. -/
theorem expand_along_cut (values : String → Option String) (text : String) :
    ∃ cut : List Stretch, IsCut cut text.toList ∧
      (∀ other, IsCut other text.toList → other = cut) ∧
      (expand text).run values =
        { result := .ok (String.ofList (cut.flatMap fun s => s.piece.meaning values))
          asked := cut.filterMap fun s => s.piece.asks
          warnings := [] } ∧
      ((∀ s ∈ cut, s.piece.asks = none) → ((expand text).run values).result = .ok text) := by
  obtain ⟨cut, isCut, _⟩ := exists_cut text.toList
  have whole := run_expand values isCut
  refine ⟨cut, isCut, fun other isCut' => isCut'.unique isCut, whole, fun plain => ?_⟩
  rw [whole, isCut.flatMap_meaning plain, String.ofList_toList]

-- A dollar sign alone, a name that goes on, braces, a brace that is not closed, and a value that
-- looks like a reference.
example :
    let run := (expand "$$A_1.$\x7bB\x7d$\x7bA_1").run fun name =>
      if name = "A_1" then some "$B" else none
    run.result.toOption = some "$$B.$\x7bA_1" ∧ run.asked = ["A_1", "B"] := by
  decide +kernel

end LayeredConfig
