import LayeredConfig.Proofs.File.Supply

/-!
# What the layer of the file makes of a setting

A configuration on its way through the layers has one place for each setting and
two more for the credentials under the older names.  The keys of a file are
applied one after the other, and each of them reaches one place.  So what the
whole file makes of a place is what the keys that reach it make of it.

Main statement: `File.at_of_yields_merge`.
-/

namespace LayeredConfig

open Reading

variable {values : String → Option String}

/-! ## Places -/

namespace FileKey

/-- The key that stands for the place where the value of a key goes. -/
def cell : FileKey → FileKey
  | .older .receiverUsername => .older .receiverUsername
  | .older .receiverPassword => .older .receiverPassword
  | k => .own k.setting

/-- The keys that reach a place, in the order in which they are applied. -/
def reaching (c : FileKey) : List FileKey :=
  File.order.filter fun k => k.cell = c.cell

/-- Two keys reach a receiver setting, unless it is a credential. -/
theorem reaching_own {s : Setting} (counted : s ≠ .version) :
    reaching (.own s) =
      if s ∈ Setting.receiverAliases ∧ (older s).cell = own s then [older s, own s]
      else [own s] := by
  cases s <;> first | rfl | exact absurd rfl counted

end FileKey

def Layered.at (l : Layered) : FileKey → Value
  | .older .receiverUsername => .text l.older.username
  | .older .receiverPassword => .text l.older.password
  | k => l.config.leaf k.setting

/-- A key is that of an older credential, or its place is the leaf of its setting. -/
theorem FileKey.cell_cases (k : FileKey) :
    k = .older .receiverUsername ∨ k = .older .receiverPassword ∨
      (k.cell = .own k.setting ∧ (∀ l : Layered, l.at k = l.config.leaf k.setting) ∧
        ∀ l v, File.place l k v = { l with config := l.config.put k.setting v }) := by
  cases k with
  | own s => exact Or.inr (Or.inr ⟨rfl, fun _ => rfl, fun _ _ => rfl⟩)
  | older s =>
      cases s
      case receiverUsername => exact Or.inl rfl
      case receiverPassword => exact Or.inr (Or.inl rfl)
      all_goals exact Or.inr (Or.inr ⟨rfl, fun _ => rfl, fun _ _ => rfl⟩)

namespace File

open FileKey

/-! ## One key -/

theorem at_place {l : Layered} {k : FileKey} {v : Value} (fits : v.IsOf k.setting.kind)
    (c : FileKey) : (place l k v).at c = if k.cell = c.cell then v else l.at c := by
  rcases k.cell_cases with rfl | rfl | ⟨cellOfKey, _, placed⟩
  · obtain ⟨name, rfl⟩ := fits.exists_text
    rcases c.cell_cases with rfl | rfl | ⟨cellOf, atLeaf, _⟩
    · rfl
    · rfl
    · rw [atLeaf, atLeaf, cellOf]
      rfl
  · obtain ⟨word, rfl⟩ := fits.exists_text
    rcases c.cell_cases with rfl | rfl | ⟨cellOf, atLeaf, _⟩
    · rfl
    · rfl
    · rw [atLeaf, atLeaf, cellOf]
      rfl
  · rw [placed, cellOfKey]
    rcases c.cell_cases with rfl | rfl | ⟨cellOf, atLeaf, _⟩
    · rfl
    · rfl
    · rw [atLeaf, atLeaf, cellOf]
      by_cases same : k.setting = c.setting
      · rw [if_pos (congrArg own same), ← same]
        exact l.config.leaf_put_same fits
      · rw [if_neg fun both => same (own.inj both)]
        exact l.config.leaf_put_other v (Ne.symm same)

def lay (values : String → Option String) (f : File) (below : Value) (k : FileKey) : Value :=
  ((Value.fromKey values f k).map (Value.onto below)).getD below

theorem at_cell (l : Layered) (k : FileKey) : l.at k.cell = l.at k := by
  rcases k.cell_cases with rfl | rfl | ⟨cellOf, atLeaf, _⟩
  · rfl
  · rfl
  · rw [cellOf, atLeaf]
    rfl

/-- A text is put in place of what is at the key, no matter where that is. -/
theorem onto_at {l : Layered} {k : FileKey} {v : Value} (fits : v.IsOf k.setting.kind) :
    Value.onto (l.at k) v = Value.onto (l.config.leaf k.setting) v := by
  rcases k.cell_cases with rfl | rfl | ⟨_, atKey, _⟩
  · obtain ⟨name, rfl⟩ := fits.exists_text
    rfl
  · obtain ⟨word, rfl⟩ := fits.exists_text
    rfl
  · rw [atKey]

theorem at_of_yields_applyKey {f : File} (formed : f.WellFormed) {l l' : Layered} {k : FileKey}
    (run : Yields values (f.applyKey l k) l') (c : FileKey) :
    l'.at c = if k.cell = c.cell then f.lay values (l.at c) k else l.at c := by
  unfold applyKey at run
  unfold lay Value.fromKey
  -- Without a value the layer stays; with one it is placed, unless it is an empty list.
  cases present : f.value k with
  | none =>
      rw [present] at run
      rw [← yields_pure.mp run]
      split <;> rfl
  | some given =>
      rw [present] at run
      obtain ⟨resolved, first, later⟩ := yields_bind.mp run
      have found := (yields_resolve.mp first).2
      rw [Option.bind_some]
      cases resolved with
      | none =>
          rw [Option.map_eq_none_iff.mp found, ← yields_pure.mp later]
          split <;> rfl
      | some v =>
          obtain ⟨supplied, held, same⟩ := Option.map_eq_some_iff.mp found
          have kind := Value.isOf_of_ofFile (formed k given present).2 held
          have fits : v.IsOf k.setting.kind := by
            rw [← same]
            exact kind.onto _
          rw [← yields_pure.mp later, at_place fits, held]
          split
          next reached =>
            rw [← same, ← onto_at kind, ← at_cell, reached, at_cell]
            rfl
          next => rfl

/-! ## The whole file -/

theorem at_of_yields_merge {f : File} (formed : f.WellFormed) {l l' : Layered}
    (run : Yields values (f.merge l) l') (c : FileKey) :
    l'.at c = (reaching c).foldl (f.lay values) (l.at c) := by
  rw [reaching, List.foldl_filter]
  simp only [decide_eq_true_eq]
  exact view_foldlM (fun t : Layered => t.at c)
    (fun v k => if k.cell = c.cell then f.lay values v k else v)
    (fun k _ t t' step => at_of_yields_applyKey formed step c) run

theorem fromKey_older_eq_none {f : File} (formed : f.WellFormed) {s : Setting}
    (single : s ∉ Setting.receiverAliases) : Value.fromKey values f (.older s) = none := by
  unfold Value.fromKey
  cases present : f.value (.older s) with
  | none => rfl
  | some given =>
      have known := (formed _ _ present).1
      simp [keys] at known
      exact absurd known single

theorem isOf_of_fromKey {f : File} (formed : f.WellFormed) {k : FileKey} {v : Value}
    (found : Value.fromKey values f k = some v) : v.IsOf k.setting.kind := by
  obtain ⟨given, present, held⟩ := Option.bind_eq_some_iff.mp found
  exact Value.isOf_of_ofFile (formed k given present).2 held

/-- A table from the file is added to an empty one unchanged; every other value takes the place of
the one below it. -/
theorem onto_of_fromKey {f : File} (formed : f.WellFormed) {k : FileKey} {v below : Value}
    (found : Value.fromKey values f k = some v)
    (bare : k.setting.kind ≠ .table ∨ below = .table []) : Value.onto below v = v := by
  have fits := isOf_of_fromKey formed found
  rcases bare with flat | rfl
  · exact fits.onto_eq flat below
  · obtain ⟨given, present, held⟩ := Option.bind_eq_some_iff.mp found
    cases v with
    | table t =>
        have sorted := Value.sorted_of_ofFile (formed k given present).2 held
        exact congrArg Value.table (Table.foldl_put_nil sorted)
    | _ => rfl

/-- The settings with two names are texts, durations, numbers and switches. -/
theorem kind_of_alias {s : Setting} (double : s ∈ Setting.receiverAliases) :
    s.kind = .text ∨ s.kind = .duration ∨ s.kind = .int ∨ s.kind = .bool := by
  have each : ∀ s ∈ Setting.receiverAliases,
      s.kind = .text ∨ s.kind = .duration ∨ s.kind = .int ∨ s.kind = .bool := by decide
  exact each s double

theorem no_table_of_alias {s : Setting} (double : s ∈ Setting.receiverAliases) :
    s.kind ≠ .table := by
  rcases kind_of_alias double with kind | kind | kind | kind <;>
    rw [kind] <;> exact Kind.noConfusion

/-- The own key of a setting counts, else its older name, else the value below stays. -/
theorem leaf_of_yields_merge {f : File} (formed : f.WellFormed) {l l' : Layered}
    (run : Yields values (f.merge l) l') {s : Setting} (counted : s ≠ .version)
    (together : (older s).cell = own s) :
    l'.config.leaf s =
      (((Value.fromKey values f (.own s)).or (Value.fromKey values f (.older s))).map
        (Value.onto (l.config.leaf s))).getD (l.config.leaf s) := by
  have whole := at_of_yields_merge formed run (.own s)
  rw [reaching_own counted] at whole
  refine whole.trans ?_
  by_cases double : s ∈ Setting.receiverAliases
  · rw [if_pos ⟨double, together⟩, List.foldl_cons, List.foldl_cons, List.foldl_nil]
    cases found : Value.fromKey values f (own s) with
    | none => rw [lay, found, lay, Option.none_or, Option.map_none, Option.getD_none]; rfl
    | some v =>
        have flat : (own s).setting.kind ≠ .table := no_table_of_alias double
        have alone : ∀ below, Value.onto below v = v := fun _ =>
          onto_of_fromKey formed found (Or.inl flat)
        rw [lay, found, Option.some_or, Option.map_some, Option.map_some, Option.getD_some,
          Option.getD_some, alone, alone]
  · rw [if_neg fun both => double both.1, fromKey_older_eq_none formed double, Option.or_none]
    rfl

theorem mem_order_of_mem_keys {k : FileKey} (known : k ∈ keys) (counted : k ≠ .own .version) :
    k ∈ order := by
  have each : (keys.all fun k => k = .own .version ∨ k ∈ order) = true := by decide +kernel
  exact (of_decide_eq_true (List.all_eq_true.mp each k known)).resolve_left counted

/-- Once a file was merged, each of its values is supplied, empty lists excepted. -/
theorem fromKey_eq_none_iff {f : File} (formed : f.WellFormed) {l l' : Layered}
    (run : Yields values (f.merge l) l') {k : FileKey} (counted : k ≠ .own .version) :
    Value.fromKey values f k = none ↔
      f.value k = none ∨ ∃ given, f.value k = some given ∧ given.isEmptyList = true := by
  unfold Value.fromKey
  cases present : f.value k with
  | none => simp
  | some given =>
      have member := mem_order_of_mem_keys (formed k given present).1 counted
      obtain ⟨t, t', step⟩ := exists_step_of_foldlM run member
      rw [Option.bind_some, Value.ofFile_eq_none_iff]
      constructor
      · rintro (nothing | ⟨timed, raw, rfl, unreadable⟩)
        · exact Or.inr ⟨given, rfl, nothing⟩
        · -- the merge refuses a text that is no duration
          unfold applyKey resolve at step
          cases read : Duration.read raw with
          | ok d => simp [read, Except.toOption] at unreadable
          | error fault => simp [present, timed, read] at step
      · rintro (absent | ⟨other, same, nothing⟩)
        · contradiction
        · cases same
          exact Or.inl nothing

end File

end LayeredConfig
