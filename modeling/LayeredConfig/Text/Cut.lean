import LayeredConfig.Text.Blank

/-!
# Cutting text at a character

`pieces` cuts at every occurrence of a separator, `cutOnce` at the first one
only, and `segments` is the rule of every comma-joined list: trimmed pieces,
empty ones dropped.
-/

namespace LayeredConfig.Text

/-- The stretches between the separators; one more than there are separators. -/
def pieces (separator : Char) : List Char → List (List Char)
  | [] => [[]]
  | c :: rest =>
      if c = separator then [] :: pieces separator rest
      else
        match pieces separator rest with
        | [] => [[c]]
        | first :: others => (c :: first) :: others

/-- What stands before and after the first separator. -/
def cutOnce (separator : Char) : List Char → Option (List Char × List Char)
  | [] => none
  | c :: rest =>
      if c = separator then some ([], rest)
      else (cutOnce separator rest).map fun (before, after) => (c :: before, after)

/-- The pieces put together again. -/
def joinWith (separator : Char) : List (List Char) → List Char
  | [] => []
  | [only] => only
  | first :: second :: others => first ++ separator :: joinWith separator (second :: others)

/-- The trimmed, non-empty pieces. -/
def segments (separator : Char) (cs : List Char) : List (List Char) :=
  ((pieces separator cs).map trim).filter (· ≠ [])

def commaList (raw : String) : List String :=
  (segments ',' raw.toList).map String.ofList

/-- Text that drops a given beginning, if it has it. -/
def stripStart : (start : List Char) → (cs : List Char) → Option (List Char)
  | [], cs => some cs
  | _ :: _, [] => none
  | p :: ps, c :: cs => if p = c then stripStart ps cs else none

def stripEnd (ending cs : List Char) : Option (List Char) :=
  (stripStart ending.reverse cs.reverse).map List.reverse

/-- Does `start` open the text? -/
def startsWith (start cs : List Char) : Bool :=
  (stripStart start cs).isSome

def contains (part : List Char) : List Char → Bool
  | [] => part.isEmpty
  | c :: rest => startsWith part (c :: rest) || contains part rest

theorem pieces_ne_nil (separator : Char) (cs : List Char) : pieces separator cs ≠ [] := by
  cases cs with
  | nil => simp [pieces]
  | cons c rest =>
      simp only [pieces]
      split
      · simp
      · split <;> simp

/-- Cutting loses nothing but the separators. -/
theorem joinWith_pieces (separator : Char) (cs : List Char) :
    joinWith separator (pieces separator cs) = cs := by
  induction cs with
  | nil => rfl
  | cons c rest ih =>
      simp only [pieces]
      split
      next same =>
        subst same
        cases shape : pieces c rest with
        | nil => exact absurd shape (pieces_ne_nil c rest)
        | cons first others => simp [joinWith, ← shape, ih]
      next differ =>
        cases shape : pieces separator rest with
        | nil => exact absurd shape (pieces_ne_nil separator rest)
        | cons first others =>
            rw [shape] at ih
            cases others with
            | nil => simpa [joinWith] using ih
            | cons second more => simpa [joinWith] using ih

/-- Texts are joined as their characters are. -/
theorem toList_intercalate (separator : Char) (names : List String) :
    ((String.singleton separator).intercalate names).toList =
      joinWith separator (names.map String.toList) := by
  induction names with
  | nil => rfl
  | cons first rest ih =>
      cases rest with
      | nil => simp [joinWith]
      | cons second others =>
          simp only [List.map_cons] at ih
          simp [String.intercalate_cons_cons, joinWith, ih]

end LayeredConfig.Text
