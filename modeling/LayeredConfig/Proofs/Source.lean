import LayeredConfig.Proofs.VariableLayer

/-!
# The sources of a setting

A setting gets its value from one of four sources: its variable, the older
variable, its key in the file, the older name of that key.  They are ranked in
this order, and the first that supplies a value counts.

Main statement: `Source.leaf_of_layers`, the two layers follow the ranking.
-/

namespace LayeredConfig

open Reading

variable {values : String → Option String} {f : File} {s : Setting}

/-- Where a setting may get its value from. -/
inductive Source where
  /-- Its variable. -/
  | primary
  /-- The older variable. -/
  | legacy
  /-- Its key in the file. -/
  | own
  /-- The older name of that key. -/
  | older
  deriving DecidableEq, Repr

namespace Source

def supply (values : String → Option String) (f : File) (s : Setting) : Source → Option Value
  | .primary => Value.fromVariable values s
  | .legacy => Value.fromOlderVariable values s
  | .own => Value.fromKey values f (.own s)
  | .older => Value.fromKey values f (.older s)

/-- The sources, the one that counts first in front. -/
def ranked : List Source := [.primary, .legacy, .own, .older]

/-- What the first source that supplies anything supplies. -/
def highest (values : String → Option String) (f : File) (s : Setting) : Option Value :=
  ranked.findSome? (supply values f s)

theorem highest_eq_or :
    highest values f s =
      ((supply values f s .primary).or (supply values f s .legacy)).or
        ((supply values f s .own).or (supply values f s .older)) := by
  unfold highest ranked
  rw [List.findSome?_cons, List.findSome?_cons, List.findSome?_cons, List.findSome?_cons,
    List.findSome?_nil]
  cases supply values f s .primary <;> cases supply values f s .legacy <;>
    cases supply values f s .own <;> cases supply values f s .older <;> rfl

/-- Most settings have one variable and one key. -/
theorem highest_of_single (formed : f.WellFormed) (single : s ∉ Setting.receiverAliases)
    (alone : s.row.legacy = none) :
    highest values f s = (Value.fromVariable values s).or (Value.fromKey values f (.own s)) := by
  have noLegacy : Value.fromOlderVariable values s = none := by
    rw [Value.fromOlderVariable, alone, Option.bind_none]
  rw [highest_eq_or, supply, supply, supply, supply, noLegacy, Option.or_none,
    File.fromKey_older_eq_none formed single, Option.or_none]

end Source

/-! ## The layers follow the ranking -/

/-- The settings whose leaf is ruled by their own four sources.  The version and the root of the
live stream are set elsewhere, an address switches the metrics on, and the older credentials are
kept apart. -/
def Setting.isRanked (s : Setting) : Bool :=
  s ∉ [.version, .hlsRoot, .metricsEnabled, .receiverUsername, .receiverPassword]

theorem FileKey.cell_older {s : Setting} (noUsername : s ≠ .receiverUsername)
    (noPassword : s ≠ .receiverPassword) : (older s).cell = own s := by
  rcases (older s).cell_cases with same | same | ⟨cellOf, _⟩
  · exact absurd (older.inj same) noUsername
  · exact absurd (older.inj same) noPassword
  · exact cellOf

/-- Behind both layers the first source that supplies a value counts. -/
theorem Source.leaf_of_layers (formed : f.WellFormed) {start below merged : Layered}
    (fromFile : Yields values (f.merge start) below)
    (fromVariables : Yields values (Setting.all.foldlM VariableLayer.applySetting below) merged)
    (rank : s.isRanked = true) (bare : s.kind ≠ .table ∨ start.config.leaf s = .table []) :
    merged.config.leaf s = (highest values f s).getD (start.config.leaf s) := by
  simp only [Setting.isRanked, List.mem_cons, List.not_mem_nil, or_false, not_or,
    decide_eq_true_eq] at rank
  obtain ⟨counted, noRoot, noSwitch, noUsername, noPassword⟩ := rank
  have keys := File.leaf_of_yields_merge formed fromFile counted
    (FileKey.cell_older noUsername noPassword)
  -- A key replaces what stands below it: no table is added to one that holds something.
  have idle : ((Value.fromKey values f (.own s)).or (Value.fromKey values f (.older s))).map
      (Value.onto (start.config.leaf s)) =
      (Value.fromKey values f (.own s)).or (Value.fromKey values f (.older s)) := by
    cases own : Value.fromKey values f (.own s) with
    | some v =>
        rw [Option.some_or, Option.map_some, File.onto_of_fromKey formed own bare]
    | none =>
        rw [Option.none_or]
        cases older : Value.fromKey values f (.older s) with
        | some v => rw [Option.map_some, File.onto_of_fromKey formed older bare]
        | none => rfl
  rw [idle] at keys
  rw [VariableLayer.leaf_of_yields_fold fromVariables noSwitch noRoot noUsername noPassword, keys,
    highest_eq_or]
  exact Option.getD_or.symm

end LayeredConfig
