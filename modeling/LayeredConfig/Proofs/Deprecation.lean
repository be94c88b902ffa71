import LayeredConfig.Proofs.Manifest
import LayeredConfig.Proofs.Text.Cut

/-!
# Use of a key on its way out

A key of a manifest stands for variables or for keys of the file.  Those of them
that are in use are listed by `users`.  The search for a key finds something iff
there is one, and reports the first, except for a pattern of file keys: that one
is reported as it stands in the manifest.

Main statements: `run_usage`, `reportedAs_of_inUse`.
-/

namespace LayeredConfig.Deprecation

open Text Reading

variable {values : String → Option String} {listing : List String} {presence : Option Presence}
  {key start block path : String}

/-! ## Blocks of a file -/

/-- A dotted key is a block or stands inside it. -/
def InBlock (block path : String) : Prop :=
  path = block ∨ block.toList ++ ['.'] <+: path.toList

instance (block path : String) : Decidable (InBlock block path) :=
  inferInstanceAs (Decidable (_ ∨ _))

theorem hasBlock_iff {p : Presence} :
    p.hasBlock block = true ↔ ∃ path ∈ p.paths, InBlock block path := by
  rw [Presence.hasBlock, List.any_eq_true]
  refine exists_congr fun path => and_congr_right fun _ => ?_
  constructor
  · intro inside
    split at inside
    next whole =>
      left
      rw [← String.toList_inj, stripStart_eq_some_iff.mp whole, List.append_nil]
    next rest below =>
      right
      rw [stripStart_eq_some_iff.mp below]
      exact ⟨rest, by simp⟩
    next => contradiction
  · rintro (rfl | ⟨rest, below⟩)
    · rw [stripStart_eq_some_iff.mpr (List.append_nil _).symm]
    · have shape : path.toList = block.toList ++ '.' :: rest := by simp [← below]
      rw [stripStart_eq_some_iff.mpr shape]
      rfl

/-! ## Keys that stand for others -/

theorem start?_eq_some_iff : start? key = some start ↔ key = start ++ "*" := by
  rw [start?, Option.map_eq_some_iff]
  constructor
  · rintro ⟨front, stripped, rfl⟩
    rw [← String.toList_inj, stripEnd_eq_some_iff.mp stripped]
    simp
  · rintro rfl
    exact ⟨start.toList, stripEnd_eq_some_iff.mpr (by simp), String.ofList_toList⟩

/-- The key stands for all keys of the file in a block. -/
def isFilePattern (key : String) : Bool := (start? key).isSome && !isVariable key

/-- A variable of a listing that is not blank and whose name starts with a text. -/
def variableUser (start : String) (entry : String × String) : Option String :=
  if startsWith start.toList entry.1.toList && !isBlankText entry.2.toList then some entry.1
  else none

/-- The variables and keys in use that a key stands for, in their order. -/
def users (values : String → Option String) (listing : List String) (presence : Option Presence)
    (key : String) : List String :=
  match start? key, isVariable key with
  | some start, true => (listing.filterMap nameAndValue).filterMap (variableUser start)
  | none, true => ((Variable.filled values key).map fun _ => key).toList
  | some start, false => ((presence.map Presence.paths).getD []).filter (InBlock (blockOf start) ·)
  | none, false => ((presence.map Presence.paths).getD []).filter (· = key)

/-- The name under which a key in use is reported. -/
def reportedAs (values : String → Option String) (listing : List String)
    (presence : Option Presence) (key : String) : String :=
  if isFilePattern key then key else (users values listing presence key).headD key

/-- A variable or a key that the key stands for is in use. -/
def InUse (values : String → Option String) (listing : List String) (presence : Option Presence)
    (key : String) : Prop :=
  users values listing presence key ≠ []

instance (values : String → Option String) (listing : List String) (presence : Option Presence)
    (key : String) : Decidable (InUse values listing presence key) :=
  inferInstanceAs (Decidable (_ ≠ _))

theorem inUse_iff : InUse values listing presence key ↔ users values listing presence key ≠ [] :=
  Iff.rfl

def found (values : String → Option String) (listing : List String) (presence : Option Presence)
    (key : String) : Option String :=
  if InUse values listing presence key then some (reportedAs values listing presence key) else none

theorem found_eq_head? (concrete : isFilePattern key = false) :
    found values listing presence key = (users values listing presence key).head? := by
  unfold found reportedAs
  simp only [inUse_iff, concrete]
  cases users values listing presence key <;> simp

theorem found_of_pattern (pattern : start? key = some start) (inFile : isVariable key = false) :
    found values listing presence key =
      presence.bind fun p => if p.hasBlock (blockOf start) then some (start ++ "*") else none := by
  have reported : reportedAs values listing presence key = start ++ "*" := by
    rw [reportedAs, isFilePattern, pattern, inFile]
    exact start?_eq_some_iff.mp pattern
  unfold found
  simp only [reported, inUse_iff]
  rw [users, pattern, inFile]
  cases presence with
  | none => rfl
  | some p =>
      have used : p.paths.filter (InBlock (blockOf start) ·) = [] ↔
          ¬p.hasBlock (blockOf start) = true := by
        rw [hasBlock_iff]
        simp [List.filter_eq_nil_iff]
      simp only [Option.map_some, Option.getD_some, ne_eq, used, Classical.not_not,
        Option.bind_some]

theorem found_of_path (plain : start? key = none) (inFile : isVariable key = false) :
    found values listing presence key =
      presence.bind fun p => if p.hasPath key then some key else none := by
  have concrete : isFilePattern key = false := by rw [isFilePattern, plain]; rfl
  rw [found_eq_head? concrete, users, plain, inFile]
  cases presence with
  | none => rfl
  | some p =>
      simp only [Option.map_some, Option.getD_some, Option.bind_some, List.head?_filter]
      rw [Presence.hasPath]
      induction p.paths with
      | nil => rfl
      | cons path rest ih =>
          by_cases same : path = key
          · simp [same]
          · simpa [same, Ne.symm same] using ih

/-- The search looks up a variable named in full, never warns and never fails. -/
theorem run_usage (key : String) (listing : List String) (presence : Option Presence) :
    (usage key listing presence).run values =
      { result := .ok (found values listing presence key), asked := names key } := by
  unfold usage names
  cases pattern : start? key with
  | some start =>
      cases named : isVariable key with
      | true =>
          have concrete : isFilePattern key = false := by rw [isFilePattern, named, pattern]; rfl
          rw [found_eq_head? concrete, users, pattern, named]
          simp only [List.head?_filterMap]
          rfl
      | false =>
          rw [found_of_pattern pattern named]
          rfl
  | none =>
      cases named : isVariable key with
      | true =>
          have concrete : isFilePattern key = false := by rw [isFilePattern, pattern]; rfl
          rw [found_eq_head? concrete, users, pattern, named]
          simp only [Option.head?_toList]
          rfl
      | false =>
          rw [found_of_path pattern named]
          rfl

/-- A key in use is reported as the first of those it stands for, unless it is a pattern of file
keys.  Such a pattern is reported as it is, whether or not the file holds a key of that name. -/
theorem reportedAs_of_inUse (used : InUse values listing presence key) :
    (isFilePattern key = false →
      (users values listing presence key).head? = some (reportedAs values listing presence key)) ∧
    (isFilePattern key = true → reportedAs values listing presence key = key) ∧
    (reportedAs values listing presence key ∈ users values listing presence key ↔
      isFilePattern key = false ∨ key ∈ users values listing presence key) := by
  have asPattern (pattern : isFilePattern key = true) :
      reportedAs values listing presence key = key := if_pos pattern
  have concrete (plain : isFilePattern key = false) :
      (users values listing presence key).head? =
        some (reportedAs values listing presence key) := by
    rw [← found_eq_head? plain, found, if_pos used]
  refine ⟨concrete, asPattern, ?_⟩
  cases shape : isFilePattern key with
  | false => exact iff_of_true (List.mem_of_head? (concrete shape)) (Or.inl rfl)
  | true => simp [asPattern shape]

end LayeredConfig.Deprecation
