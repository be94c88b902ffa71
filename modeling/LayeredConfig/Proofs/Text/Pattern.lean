import LayeredConfig.Proofs.Text.Cut

/-!
# Patterns

A pattern may read the front of a text in several ways.  They stand in the order
of preference: an alternative that is written first comes first, and a repeated
class takes as many characters as it can before it tries fewer.  A search takes
the first way at every place.

Main statements: `Pattern.Prefers.andThen`, `Pattern.prefers_many`.
-/

namespace LayeredConfig.Text

/-- The ways to read the front of a text, the preferred one first: what is taken and what is
left. -/
abbrev Pattern := List Char → List (List Char × List Char)

namespace Pattern

def one (inClass : Char → Bool) : Pattern
  | [] => []
  | c :: rest => if inClass c then [([c], rest)] else []

def word (w : List Char) : Pattern := fun cs => ((stripStart w cs).map fun rest => (w, rest)).toList

/-- Either of two patterns, rather the first. -/
def orElse (p q : Pattern) : Pattern := fun cs => p cs ++ q cs

def andThen (p q : Pattern) : Pattern := fun cs =>
  (p cs).flatMap fun first => (q first.2).map fun second => (first.1 ++ second.1, second.2)

/-- A pattern or nothing, rather the pattern. -/
def optional (p : Pattern) : Pattern := fun cs => p cs ++ [([], cs)]

/-- Any number of characters of a class, rather more than fewer. -/
def many (inClass : Char → Bool) : Pattern
  | [] => [([], [])]
  | c :: rest =>
      (if inClass c then (many inClass rest).map fun way => (c :: way.1, way.2) else []) ++
        [([], c :: rest)]

/-- At least one character of a class, rather more than fewer. -/
def many1 (inClass : Char → Bool) : Pattern := (one inClass).andThen (many inClass)

/-- The first of the given words that the text starts with. -/
def anyWord (words : List (List Char)) : Pattern := fun cs => words.flatMap fun w => word w cs

/-! ## What the ways take -/

variable {p q : Pattern} {inClass : Char → Bool} {cs taken rest : List Char}

theorem mem_one : (taken, rest) ∈ one inClass cs ↔
    ∃ c, inClass c = true ∧ taken = [c] ∧ cs = c :: rest := by
  cases cs with
  | nil => simp [one]
  | cons c tail =>
      by_cases inside : inClass c = true
      · simp only [one, if_pos inside, List.mem_singleton, Prod.mk.injEq, List.cons.injEq]
        constructor
        · rintro ⟨rfl, rfl⟩
          exact ⟨c, inside, rfl, rfl, rfl⟩
        · rintro ⟨_, _, rfl, rfl, rfl⟩
          exact ⟨rfl, rfl⟩
      · simp only [one, if_neg inside, List.not_mem_nil, List.cons.injEq, false_iff]
        rintro ⟨_, inside', _, rfl, _⟩
        exact inside inside'

theorem mem_word {w : List Char} : (taken, rest) ∈ word w cs ↔ taken = w ∧ cs = w ++ rest := by
  rw [word, Option.mem_toList, Option.map_eq_some_iff]
  constructor
  · rintro ⟨after, stripped, same⟩
    obtain ⟨rfl, rfl⟩ := Prod.mk.inj same
    exact ⟨rfl, stripStart_eq_some_iff.mp stripped⟩
  · rintro ⟨rfl, rfl⟩
    exact ⟨rest, stripStart_eq_some_iff.mpr rfl, rfl⟩

theorem mem_anyWord {words : List (List Char)} :
    (taken, rest) ∈ anyWord words cs ↔ taken ∈ words ∧ cs = taken ++ rest := by
  rw [anyWord, List.mem_flatMap]
  constructor
  · rintro ⟨w, member, way⟩
    obtain ⟨rfl, shape⟩ := mem_word.mp way
    exact ⟨member, shape⟩
  · rintro ⟨member, shape⟩
    exact ⟨taken, member, mem_word.mpr ⟨rfl, shape⟩⟩

theorem mem_orElse {way : List Char × List Char} :
    way ∈ p.orElse q cs ↔ way ∈ p cs ∨ way ∈ q cs :=
  List.mem_append

theorem mem_andThen : (taken, rest) ∈ p.andThen q cs ↔
    ∃ front middle back, (front, middle) ∈ p cs ∧ (back, rest) ∈ q middle ∧
      taken = front ++ back := by
  rw [andThen, List.mem_flatMap]
  constructor
  · rintro ⟨⟨front, middle⟩, first, way⟩
    obtain ⟨⟨back, after⟩, second, same⟩ := List.mem_map.mp way
    obtain ⟨rfl, rfl⟩ := Prod.mk.inj same
    exact ⟨front, middle, back, first, second, rfl⟩
  · rintro ⟨front, middle, back, first, second, rfl⟩
    exact ⟨(front, middle), first, List.mem_map.mpr ⟨(back, rest), second, rfl⟩⟩

theorem mem_optional :
    (taken, rest) ∈ p.optional cs ↔ (taken, rest) ∈ p cs ∨ taken = [] ∧ rest = cs := by
  rw [optional, List.mem_append, List.mem_singleton, Prod.mk.injEq]

theorem mem_many (way : (taken, rest) ∈ many inClass cs) :
    cs = taken ++ rest ∧ ∀ c ∈ taken, inClass c = true := by
  induction cs generalizing taken with
  | nil =>
      obtain ⟨rfl, rfl⟩ := Prod.mk.inj (List.mem_singleton.mp way)
      exact ⟨rfl, nofun⟩
  | cons c tail ih =>
      rcases List.mem_append.mp way with longer | none
      · split at longer
        next inside =>
          obtain ⟨⟨taken', rest'⟩, later, same⟩ := List.mem_map.mp longer
          obtain ⟨rfl, rfl⟩ := Prod.mk.inj same
          obtain ⟨shape, each⟩ := ih later
          exact ⟨congrArg (c :: ·) shape, List.forall_mem_cons.mpr ⟨inside, each⟩⟩
        next => contradiction
      · obtain ⟨rfl, rfl⟩ := Prod.mk.inj (List.mem_singleton.mp none)
        exact ⟨rfl, nofun⟩

theorem mem_many1 (way : (taken, rest) ∈ many1 inClass cs) :
    cs = taken ++ rest ∧ taken ≠ [] ∧ ∀ c ∈ taken, inClass c = true := by
  obtain ⟨front, middle, back, first, second, rfl⟩ := mem_andThen.mp way
  obtain ⟨c, inside, rfl, rfl⟩ := mem_one.mp first
  obtain ⟨rfl, each⟩ := mem_many second
  exact ⟨rfl, List.cons_ne_nil _ _, List.forall_mem_cons.mpr ⟨inside, each⟩⟩

/-! ## The preferred way -/

/-- The way that a search takes. -/
def Prefers (p : Pattern) (cs taken rest : List Char) : Prop := (p cs).head? = some (taken, rest)

theorem Prefers.orElse (first : p.Prefers cs taken rest) : (p.orElse q).Prefers cs taken rest := by
  rw [Prefers, Pattern.orElse, List.head?_append, first]
  rfl

theorem Prefers.orElse_right (nothing : p cs = []) (second : q.Prefers cs taken rest) :
    (p.orElse q).Prefers cs taken rest := by
  rw [Prefers, Pattern.orElse, nothing, List.nil_append, second]

theorem Prefers.optional (first : p.Prefers cs taken rest) :
    p.optional.Prefers cs taken rest := by
  rw [Prefers, Pattern.optional, List.head?_append, first]
  rfl

theorem prefers_optional_nil (nothing : p cs = []) : p.optional.Prefers cs [] cs := by
  rw [Prefers, Pattern.optional, nothing]
  rfl

theorem Prefers.andThen {front middle back : List Char} (first : p.Prefers cs front middle)
    (second : q.Prefers middle back rest) : (p.andThen q).Prefers cs (front ++ back) rest := by
  obtain ⟨others, ways⟩ := List.head?_eq_some_iff.mp first
  obtain ⟨others', ways'⟩ := List.head?_eq_some_iff.mp second
  rw [Prefers, Pattern.andThen, ways, List.flatMap_cons, ways']
  rfl

theorem prefers_word (w rest : List Char) : (word w).Prefers (w ++ rest) w rest := by
  rw [Prefers, word, stripStart_eq_some_iff.mpr rfl]
  rfl

theorem word_eq_nil {w : List Char} (differ : ¬w <+: cs) : word w cs = [] := by
  rw [List.eq_nil_iff_forall_not_mem]
  rintro ⟨taken, rest⟩ way
  obtain ⟨_, rfl⟩ := mem_word.mp way
  exact differ (List.prefix_append w rest)

/-- The text does not go on with a character of the class. -/
def StopsAt (inClass : Char → Bool) (cs : List Char) : Prop := ∀ c ∈ cs.head?, inClass c = false

theorem prefers_many (each : ∀ c ∈ taken, inClass c = true) (stops : StopsAt inClass rest) :
    (many inClass).Prefers (taken ++ rest) taken rest := by
  induction taken with
  | nil =>
      cases rest with
      | nil => rfl
      | cons c tail =>
          have outside : inClass c = false := stops c rfl
          rw [Prefers, List.nil_append, many, outside]
          rfl
  | cons c tail ih =>
      obtain ⟨inside, later⟩ := List.forall_mem_cons.mp each
      obtain ⟨others, ways⟩ := List.head?_eq_some_iff.mp (ih later)
      rw [Prefers, List.cons_append, many, if_pos inside, ways]
      rfl

theorem prefers_many1 (filled : taken ≠ []) (each : ∀ c ∈ taken, inClass c = true)
    (stops : StopsAt inClass rest) : (many1 inClass).Prefers (taken ++ rest) taken rest := by
  cases taken with
  | nil => exact absurd rfl filled
  | cons c tail =>
      obtain ⟨inside, later⟩ := List.forall_mem_cons.mp each
      have first : (one inClass).Prefers (c :: (tail ++ rest)) [c] (tail ++ rest) := by
        rw [Prefers, one, if_pos inside]
        rfl
      exact first.andThen (prefers_many later stops)

theorem many1_eq_nil (stops : StopsAt inClass cs) : many1 inClass cs = [] := by
  cases cs with
  | nil => rfl
  | cons c tail =>
      have outside : inClass c = false := stops c rfl
      rw [many1, andThen, one, outside]
      rfl

/-- A stretch of a class in front of what does not go on with it is what a scan for the class
takes. -/
theorem span_append (each : ∀ c ∈ taken, inClass c = true) (stops : StopsAt inClass rest) :
    (taken ++ rest).takeWhile inClass = taken ∧ (taken ++ rest).dropWhile inClass = rest := by
  rw [List.takeWhile_append_of_pos each, List.dropWhile_append_of_pos each]
  cases rest with
  | nil => simp
  | cons c tail =>
      have outside : inClass c = false := stops c rfl
      simp [outside]

end Pattern

end LayeredConfig.Text
