import LayeredConfig.Proofs.Duration
import LayeredConfig.Proofs.Text.Pattern
import Mathlib.Data.List.Forall2

/-!
# The grammar of durations

A duration is written as a run of pieces, each a number with the name of a unit.
The pieces of a text can be told in three ways: the text as a whole is cut into
pieces, a search takes the preferred piece at every place and skips what opens
none, and `Part.readAll` reads one part after the other.  All three agree, so a
text has at most one such cut.

Main statements: `Piece.found_flatMap_text`, `Piece.tiles_iff`,
`Part.readAll_eq_some_iff`.
-/

namespace LayeredConfig.Duration

open Text

/-- Nothing but digits. -/
def IsDigits (cs : List Char) : Prop := ∀ c ∈ cs, c.isDigit = true

instance (cs : List Char) : Decidable (IsDigits cs) :=
  decidable_of_iff (cs.all Char.isDigit = true) List.all_eq_true

/-- A number as it may be written, behind the digits before and after its point: digits, digits
with a point and perhaps more digits, or a point with digits. -/
inductive Numeral : (whole fraction text : List Char) → Prop
  | digits {ds : List Char} : ds ≠ [] → IsDigits ds → Numeral ds [] ds
  | pointed {ds fs : List Char} : ds ≠ [] → IsDigits ds → IsDigits fs →
      Numeral ds fs (ds ++ '.' :: fs)
  | fraction {fs : List Char} : fs ≠ [] → IsDigits fs → Numeral [] fs ('.' :: fs)

/-- The names of the units, in the order in which a search tries them. -/
def TimeUnit.names : List (List Char × TimeUnit) :=
  [(['n', 's'], .nano), (['u', 's'], .micro), (['µ', 's'], .micro), (['μ', 's'], .micro),
   (['m', 's'], .milli), (['s'], .second), (['m'], .minute), (['h'], .hour)]

/-- A number and the name of a unit, as they are written. -/
structure Piece where
  number : List Char
  unit : List Char
  deriving DecidableEq, Repr

namespace Piece

def text (p : Piece) : List Char := p.number ++ p.unit

def IsWritten (p : Piece) : Prop :=
  (∃ whole fraction, Numeral whole fraction p.number) ∧ p.unit ∈ TimeUnit.names.map Prod.fst

/-- The piece is the written form of a part. -/
def Spells (p : Piece) (part : Part) : Prop :=
  Numeral part.whole part.fraction p.number ∧ (p.unit, part.unit) ∈ TimeUnit.names

/-- Digits with an optional fraction, which may be empty, or a fraction with at least one digit. -/
def numberPattern : Pattern :=
  ((Pattern.many1 Char.isDigit).andThen
    ((Pattern.word ['.']).andThen (Pattern.many Char.isDigit)).optional).orElse
    ((Pattern.word ['.']).andThen (Pattern.many1 Char.isDigit))

def unitPattern : Pattern := Pattern.anyWord (TimeUnit.names.map Prod.fst)

/-- The ways to read a piece at the front of a text, with what is left, the preferred one first. -/
def ways (cs : List Char) : List (Piece × List Char) :=
  (numberPattern cs).flatMap fun number =>
    (unitPattern number.2).map fun unit => (⟨number.1, unit.1⟩, unit.2)

/-- A way to read a whole text as pieces. -/
inductive Tiles : List Piece → List Char → Prop
  | last {p : Piece} {cs : List Char} : (p, []) ∈ ways cs → Tiles [p] cs
  | more {p : Piece} {ps : List Piece} {cs rest : List Char} :
      (p, rest) ∈ ways cs → Tiles ps rest → Tiles (p :: ps) cs

/-- The pieces that a search finds from left to right: where no piece can be read it goes on one
character later, else behind the piece. -/
def found : List Char → List Piece
  | [] => []
  | c :: cs =>
      match (ways (c :: cs)).head? with
      | none => found cs
      | some (p, rest) => if _shorter : rest.length < (c :: cs).length then p :: found rest else []
termination_by cs => cs.length
decreasing_by
  · exact Nat.lt_succ_self cs.length
  · exact _shorter

/-! ## Numbers and units -/

variable {p : Piece} {part : Part} {cs rest whole fraction number : List Char}

/-- The text is over, or another piece begins. -/
def Opens (cs : List Char) : Prop := ∀ c ∈ cs.head?, c.isDigit = true ∨ c = '.'

/-- Whatever follows the number of a piece is neither a digit nor a point. -/
def Closes (cs : List Char) : Prop := ∀ c ∈ cs.head?, c.isDigit = false ∧ c ≠ '.'

theorem closes_unit {unit : List Char} (named : unit ∈ TimeUnit.names.map Prod.fst)
    (rest : List Char) : Closes (unit ++ rest) := by
  have each : ∀ unit ∈ TimeUnit.names.map Prod.fst, unit ≠ [] ∧
      unit.head?.all (fun c => !c.isDigit && c ≠ '.') = true := by decide
  obtain ⟨filled, first⟩ := each unit named
  obtain ⟨c, letters, rfl⟩ := List.exists_cons_of_ne_nil filled
  intro d begins
  obtain rfl := Option.some.inj begins
  simpa using first

theorem opens_number (written : Numeral whole fraction number) (rest : List Char) :
    Opens (number ++ rest) := by
  cases written with
  | digits filled each | pointed filled each _ =>
      obtain ⟨c, more, rfl⟩ := List.exists_cons_of_ne_nil filled
      intro d first
      obtain rfl := Option.some.inj first
      exact Or.inl (each _ List.mem_cons_self)
  | fraction =>
      intro d first
      obtain rfl := Option.some.inj first
      exact Or.inr rfl

theorem opens_flatMap_text {pieces : List Piece} (written : ∀ p ∈ pieces, p.IsWritten) :
    Opens (pieces.flatMap text) := by
  cases pieces with
  | nil => nofun
  | cons p others =>
      obtain ⟨⟨whole, fraction, number⟩, _⟩ := written p List.mem_cons_self
      rw [List.flatMap_cons, text, List.append_assoc]
      exact opens_number number _

theorem prefers_number (written : Numeral whole fraction number) (closes : Closes rest) :
    numberPattern.Prefers (number ++ rest) number rest := by
  have noDigit : Pattern.StopsAt Char.isDigit rest := fun c first => (closes c first).1
  have noPoint : Pattern.word ['.'] rest = [] := by
    refine Pattern.word_eq_nil ?_
    rintro ⟨tail, rfl⟩
    exact (closes '.' rfl).2 rfl
  have atPoint (cs : List Char) : Pattern.StopsAt Char.isDigit ('.' :: cs) := by
    intro c first
    obtain rfl := Option.some.inj first
    rfl
  cases written with
  | digits filled each =>
      have nothing : (Pattern.word ['.']).andThen (Pattern.many Char.isDigit) rest = [] := by
        rw [Pattern.andThen, noPoint]
        rfl
      have read := (Pattern.prefers_many1 filled each noDigit).andThen
        (Pattern.prefers_optional_nil nothing)
      rw [List.append_nil] at read
      exact read.orElse
  | pointed filled each eachBehind =>
      rw [List.append_assoc]
      have behind := (Pattern.prefers_word ['.'] (fraction ++ rest)).andThen
        (Pattern.prefers_many eachBehind noDigit)
      exact ((Pattern.prefers_many1 filled each (atPoint _)).andThen behind.optional).orElse
  | fraction filled each =>
      refine Pattern.Prefers.orElse_right ?_ ((Pattern.prefers_word ['.']
        (fraction ++ rest)).andThen (Pattern.prefers_many1 filled each noDigit))
      rw [Pattern.andThen, List.cons_append, Pattern.many1_eq_nil (atPoint _)]
      rfl

theorem numeral_of_mem_numberPattern (way : (number, rest) ∈ numberPattern cs) :
    cs = number ++ rest ∧ ∃ whole fraction, Numeral whole fraction number := by
  rcases Pattern.mem_orElse.mp way with begun | bare
  · obtain ⟨ds, middle, behind, first, second, rfl⟩ := Pattern.mem_andThen.mp begun
    obtain ⟨rfl, filled, each⟩ := Pattern.mem_many1 first
    rcases Pattern.mem_optional.mp second with pointed | ⟨rfl, rfl⟩
    · obtain ⟨point, more, fs, dot, digits, rfl⟩ := Pattern.mem_andThen.mp pointed
      obtain ⟨rfl, rfl⟩ := Pattern.mem_word.mp dot
      obtain ⟨rfl, eachBehind⟩ := Pattern.mem_many digits
      exact ⟨by simp, ds, fs, .pointed filled each eachBehind⟩
    · exact ⟨by simp, _, [], by simpa using .digits filled each⟩
  · obtain ⟨point, more, fs, dot, digits, rfl⟩ := Pattern.mem_andThen.mp bare
    obtain ⟨rfl, rfl⟩ := Pattern.mem_word.mp dot
    obtain ⟨rfl, filled, each⟩ := Pattern.mem_many1 digits
    exact ⟨by simp, [], fs, .fraction filled each⟩

/-- No name of a unit goes on where another piece begins, so the longest one counts. -/
theorem prefers_unit {unit : List Char} (named : unit ∈ TimeUnit.names.map Prod.fst)
    (opens : Opens rest) : unitPattern.Prefers (unit ++ rest) unit rest := by
  have noLetter : ∀ tail, rest ≠ 's' :: tail := by
    rintro tail rfl
    exact absurd (opens 's' rfl) (by decide)
  cases rest with
  | nil =>
      revert unit
      unfold Pattern.Prefers
      decide
  | cons c tail =>
      have differ : 's' ≠ c := fun same => noLetter tail (same ▸ rfl)
      simp only [TimeUnit.names, List.map_cons, List.map_nil, List.mem_cons, List.not_mem_nil,
        or_false] at named
      rcases named with rfl | rfl | rfl | rfl | rfl | rfl | rfl | rfl <;>
        simp [Pattern.Prefers, unitPattern, Pattern.anyWord, TimeUnit.names, Pattern.word,
          stripStart, differ]

/-! ## Pieces -/

theorem mem_ways : (p, rest) ∈ ways cs ↔
    ∃ behind, (p.number, behind) ∈ numberPattern cs ∧ (p.unit, rest) ∈ unitPattern behind := by
  rw [ways, List.mem_flatMap]
  constructor
  · rintro ⟨⟨number, behind⟩, first, way⟩
    obtain ⟨⟨unit, after⟩, second, same⟩ := List.mem_map.mp way
    obtain ⟨rfl, rfl⟩ := Prod.mk.inj same
    exact ⟨behind, first, second⟩
  · rintro ⟨behind, first, second⟩
    exact ⟨_, first, List.mem_map.mpr ⟨_, second, rfl⟩⟩

theorem isWritten_of_mem_ways (way : (p, rest) ∈ ways cs) :
    cs = p.text ++ rest ∧ p.IsWritten := by
  obtain ⟨behind, first, second⟩ := mem_ways.mp way
  obtain ⟨rfl, numeral⟩ := numeral_of_mem_numberPattern first
  obtain ⟨named, rfl⟩ := Pattern.mem_anyWord.mp second
  exact ⟨(List.append_assoc _ _ _).symm, numeral, named⟩

theorem IsWritten.text_ne_nil (written : p.IsWritten) : p.text ≠ [] := by
  obtain ⟨number, unit⟩ := p
  obtain ⟨⟨whole, fraction, numeral⟩, _⟩ := written
  refine List.append_ne_nil_of_left_ne_nil ?_ _
  cases numeral with
  | digits filled _ => exact filled
  | pointed => exact List.append_ne_nil_of_right_ne_nil _ (List.cons_ne_nil _ _)
  | fraction => exact List.cons_ne_nil _ _

/-- The piece that stands in front is the one that a search prefers. -/
theorem head?_ways (written : p.IsWritten) (opens : Opens rest) :
    (ways (p.text ++ rest)).head? = some (p, rest) := by
  obtain ⟨⟨whole, fraction, numeral⟩, named⟩ := written
  obtain ⟨others, numbers⟩ := List.head?_eq_some_iff.mp
    (prefers_number numeral (closes_unit named rest))
  obtain ⟨others', units⟩ := List.head?_eq_some_iff.mp (prefers_unit named opens)
  rw [text, List.append_assoc, ways, numbers, List.flatMap_cons, units]
  rfl

theorem found_eq_cons (way : (ways cs).head? = some (p, rest)) : found cs = p :: found rest := by
  have member := List.mem_of_head? way
  obtain ⟨shape, written⟩ := isWritten_of_mem_ways member
  have shorter : rest.length < cs.length := by
    have filled := List.length_pos_iff.mpr written.text_ne_nil
    rw [shape, List.length_append]
    omega
  cases cs with
  | nil => exact absurd shorter (Nat.not_lt_zero _)
  | cons c tail =>
      rw [found, way]
      exact dif_pos shorter

/-- A search finds the pieces that the text was put together from, and skips nothing. -/
theorem found_flatMap_text {pieces : List Piece} (written : ∀ p ∈ pieces, p.IsWritten) :
    found (pieces.flatMap text) = pieces := by
  induction pieces with
  | nil => rw [List.flatMap_nil, found]
  | cons p others ih =>
      obtain ⟨here, later⟩ := List.forall_mem_cons.mp written
      rw [List.flatMap_cons, found_eq_cons (head?_ways here (opens_flatMap_text later)), ih later]

/-- A cut of a whole text into pieces is what its name says. -/
theorem tiles_iff {pieces : List Piece} : Tiles pieces cs ↔
    pieces ≠ [] ∧ (∀ p ∈ pieces, p.IsWritten) ∧ pieces.flatMap text = cs := by
  constructor
  · intro tiles
    induction tiles with
    | last way =>
        obtain ⟨shape, written⟩ := isWritten_of_mem_ways way
        exact ⟨List.cons_ne_nil _ _, List.forall_mem_singleton.mpr written, by simp [shape]⟩
    | more way _ ih =>
        obtain ⟨shape, written⟩ := isWritten_of_mem_ways way
        obtain ⟨_, each, joined⟩ := ih
        exact ⟨List.cons_ne_nil _ _, List.forall_mem_cons.mpr ⟨written, each⟩,
          by rw [List.flatMap_cons, joined, shape]⟩
  · rintro ⟨filled, each, rfl⟩
    induction pieces with
    | nil => exact absurd rfl filled
    | cons p others ih =>
        obtain ⟨here, later⟩ := List.forall_mem_cons.mp each
        have way := List.mem_of_head? (head?_ways here (opens_flatMap_text later))
        cases others with
        | nil => exact .last way
        | cons q more => exact .more way (ih (List.cons_ne_nil _ _) later)

/-- No text has two cuts: the one there is, is what a search finds. -/
theorem Tiles.eq_found {pieces : List Piece} (tiles : Tiles pieces cs) : pieces = found cs := by
  obtain ⟨_, written, rfl⟩ := tiles_iff.mp tiles
  exact (found_flatMap_text written).symm

/-! ## Parts -/

theorem Spells.isWritten (spells : p.Spells part) : p.IsWritten :=
  ⟨⟨_, _, spells.1⟩, List.mem_map.mpr ⟨_, spells.2, rfl⟩⟩

theorem isWritten_of_forall₂ {pieces : List Piece} {parts : List Part}
    (each : List.Forall₂ Spells pieces parts) : ∀ p ∈ pieces, p.IsWritten := by
  induction each with
  | nil => nofun
  | cons spells _ ih => exact List.forall_mem_cons.mpr ⟨spells.isWritten, ih⟩

theorem IsWritten.exists_spells (written : p.IsWritten) : ∃ part, p.Spells part := by
  obtain ⟨⟨whole, fraction, numeral⟩, named⟩ := written
  obtain ⟨⟨name, unit⟩, member, rfl⟩ := List.mem_map.mp named
  exact ⟨⟨whole, fraction, unit⟩, numeral, member⟩

end Piece

theorem TimeUnit.read_append {name rest : List Char} {unit : TimeUnit}
    (named : (name, unit) ∈ names) (opens : Piece.Opens rest) :
    TimeUnit.read (name ++ rest) = some (unit, rest) := by
  have noLetter : ∀ tail, rest ≠ 's' :: tail := by
    rintro tail rfl
    exact absurd (opens 's' rfl) (by decide)
  simp only [names, List.mem_cons, List.not_mem_nil, or_false, Prod.mk.injEq] at named
  rcases named with ⟨rfl, rfl⟩ | ⟨rfl, rfl⟩ | ⟨rfl, rfl⟩ | ⟨rfl, rfl⟩ | ⟨rfl, rfl⟩ | ⟨rfl, rfl⟩ |
    ⟨rfl, rfl⟩ | ⟨rfl, rfl⟩
  case inr.inr.inr.inr.inr.inr.inl =>
    -- `m` must not be the front of `ms`
    cases rest with
    | nil => rfl
    | cons c tail =>
        unfold TimeUnit.read
        split <;> simp_all
  all_goals rfl

theorem TimeUnit.exists_of_read {cs rest : List Char} {unit : TimeUnit}
    (found : TimeUnit.read cs = some (unit, rest)) :
    ∃ name, (name, unit) ∈ names ∧ cs = name ++ rest := by
  unfold TimeUnit.read at found
  split at found
  case h_9 => contradiction
  all_goals
    obtain ⟨rfl, rfl⟩ := Prod.mk.inj (Option.some.inj found)
  · exact ⟨['n', 's'], by decide, rfl⟩
  · exact ⟨['u', 's'], by decide, rfl⟩
  · exact ⟨['µ', 's'], by decide, rfl⟩
  · exact ⟨['μ', 's'], by decide, rfl⟩
  · exact ⟨['m', 's'], by decide, rfl⟩
  · exact ⟨['s'], by decide, rfl⟩
  · exact ⟨['m'], by decide, rfl⟩
  · exact ⟨['h'], by decide, rfl⟩

namespace Part

open Piece

variable {p : Piece} {part : Part} {cs rest : List Char}

/-- The part at the front is the one that was written there. -/
theorem read_append (spells : p.Spells part) (opens : Opens rest) :
    Part.read (p.text ++ rest) = some (part, rest) := by
  obtain ⟨whole, fraction, unit⟩ := part
  obtain ⟨number, name⟩ := p
  obtain ⟨numeral, named⟩ : Numeral whole fraction number ∧ (name, unit) ∈ TimeUnit.names := spells
  have closes : Closes (name ++ rest) := closes_unit (List.mem_map.mpr ⟨_, named, rfl⟩) rest
  have noDigit : Pattern.StopsAt Char.isDigit (name ++ rest) := fun c first => (closes c first).1
  have noPoint : ∀ more, name ++ rest ≠ '.' :: more := by
    intro more same
    rw [same] at closes
    exact (closes '.' rfl).2 rfl
  have atPoint (cs : List Char) : Pattern.StopsAt Char.isDigit ('.' :: cs) := by
    intro c first
    obtain rfl := Option.some.inj first
    rfl
  have unitRead := TimeUnit.read_append named opens
  rw [text, List.append_assoc]
  cases numeral with
  | digits filled each =>
      obtain ⟨front, back⟩ := Pattern.span_append each noDigit
      simp [Part.read, front, back, filled, unitRead]
  | pointed filled each eachBehind =>
      obtain ⟨front, back⟩ := Pattern.span_append each (atPoint (fraction ++ (name ++ rest)))
      obtain ⟨front', back'⟩ := Pattern.span_append eachBehind noDigit
      simp [Part.read, front, back, front', back', filled, unitRead]
  | fraction filled each =>
      obtain ⟨front, back⟩ := Pattern.span_append each noDigit
      have dot : Char.isDigit '.' = false := rfl
      simp [Part.read, dot, front, back, filled, unitRead]

/-- Every part that is read was written as a piece. -/
theorem exists_piece_of_read (read : Part.read cs = some (part, rest)) :
    ∃ p : Piece, p.Spells part ∧ cs = p.text ++ rest := by
  have digits : IsDigits (cs.takeWhile Char.isDigit) := fun c member =>
    List.all_eq_true.mp List.all_takeWhile c member
  have split : cs = cs.takeWhile Char.isDigit ++ cs.dropWhile Char.isDigit :=
    List.takeWhile_append_dropWhile.symm
  simp only [Part.read] at read
  generalize cs.takeWhile Char.isDigit = whole at read digits split
  generalize cs.dropWhile Char.isDigit = behind at read split
  split at read
  next more =>
    have digitsBehind : IsDigits (more.takeWhile Char.isDigit) := fun c member =>
      List.all_eq_true.mp List.all_takeWhile c member
    have splitBehind : more = more.takeWhile Char.isDigit ++ more.dropWhile Char.isDigit :=
      List.takeWhile_append_dropWhile.symm
    generalize more.takeWhile Char.isDigit = fraction at read digitsBehind splitBehind
    generalize more.dropWhile Char.isDigit = tail at read splitBehind
    split at read
    next => contradiction
    next some =>
      obtain ⟨⟨unit, after⟩, unitRead, same⟩ := Option.map_eq_some_iff.mp read
      obtain ⟨rfl, rfl⟩ := Prod.mk.inj same
      obtain ⟨name, named, rfl⟩ := TimeUnit.exists_of_read unitRead
      by_cases bare : whole = []
      · subst bare
        have filled : fraction ≠ [] := by simpa using some
        exact ⟨⟨'.' :: fraction, name⟩, ⟨.fraction filled digitsBehind, named⟩,
          by simp [split, splitBehind, text]⟩
      · exact ⟨⟨whole ++ '.' :: fraction, name⟩, ⟨.pointed bare digits digitsBehind, named⟩,
          by simp [split, splitBehind, text]⟩
  next =>
    split at read
    next => contradiction
    next some =>
      obtain ⟨⟨unit, after⟩, unitRead, same⟩ := Option.map_eq_some_iff.mp read
      obtain ⟨rfl, rfl⟩ := Prod.mk.inj same
      obtain ⟨name, named, rfl⟩ := TimeUnit.exists_of_read unitRead
      have filled : whole ≠ [] := by simpa using some
      exact ⟨⟨whole, name⟩, ⟨.digits filled digits, named⟩, by simp [split, text]⟩

/-- Reading part by part gives the parts that the pieces of the text spell. -/
theorem readAll_eq_some_iff {parts : List Part} : Part.readAll cs = some parts ↔
    ∃ pieces, pieces ≠ [] ∧ List.Forall₂ Spells pieces parts ∧ pieces.flatMap text = cs := by
  constructor
  · intro read
    fun_induction Part.readAll cs generalizing parts with
    | case1 => contradiction
    | case2 cs part rest first last =>
        obtain ⟨p, spells, rfl⟩ := exists_piece_of_read first
        obtain rfl := Option.some.inj read
        obtain rfl := List.isEmpty_iff.mp last
        exact ⟨[p], List.cons_ne_nil _ _, .cons spells .nil, by simp⟩
    | case3 cs part rest first more shorter ih =>
        obtain ⟨p, spells, rfl⟩ := exists_piece_of_read first
        obtain ⟨others, later, rfl⟩ := Option.map_eq_some_iff.mp read
        obtain ⟨pieces, _, each, joined⟩ := ih later
        exact ⟨p :: pieces, List.cons_ne_nil _ _, .cons spells each,
          by rw [List.flatMap_cons, joined]⟩
    | case4 => contradiction
  · rintro ⟨pieces, filled, each, rfl⟩
    induction each with
    | nil => exact absurd rfl filled
    | @cons p part pieces parts spells each ih =>
        have opens := opens_flatMap_text (isWritten_of_forall₂ each)
        rw [List.flatMap_cons, Part.readAll, read_append spells opens]
        cases pieces with
        | nil =>
            cases each
            rfl
        | cons q more =>
            have present : (q :: more).flatMap text ≠ [] := by
              rw [List.flatMap_cons]
              have here := isWritten_of_forall₂ each q List.mem_cons_self
              exact List.append_ne_nil_of_left_ne_nil here.text_ne_nil _
            have shorter : ((q :: more).flatMap text).length <
                (p.text ++ (q :: more).flatMap text).length := by
              have filled := List.length_pos_iff.mpr spells.isWritten.text_ne_nil
              rw [List.length_append]
              omega
            simp only [List.isEmpty_iff, present, if_false, shorter, dif_pos]
            rw [ih (List.cons_ne_nil _ _), Option.map_some]

end Part

end LayeredConfig.Duration
