import LayeredConfig.File.Decode
import LayeredConfig.Proofs.Success
import LayeredConfig.Proofs.Table

/-!
# The form of a decoded file

Whatever a text decodes to, a value stands in it only under a key of the
grammar, and it has the form of its key.  So a stage that takes a decoded file
never meets a value that does not fit.  The blocks around a value stand in the
file too.

Main statements: `File.wellFormed_of_decode`, `File.encloses_of_decode`.
-/

namespace LayeredConfig

open Success
open Yaml (Tree Document)

/-! ## Forms -/

/-- A value that a file may hold for a setting of a kind: durations stand there as text, a table
has its names in order. -/
def Kind.Holds : Kind → Value → Prop
  | .text, .text _ | .optionalText, .text _ | .duration, .text _ => True
  | .int, .int _ | .bool, .bool _ | .float, .float _ | .texts, .texts _ | .ints, .ints _ => True
  | .table, .table t => t.Sorted
  | .tokens, .tokens _ | .mappings, .mappings _ | .libraryRoots, .libraryRoots _ => True
  | _, _ => False

/-- A value that a file may hold for a setting. -/
def Setting.Admits (s : Setting) (v : LayeredConfig.Value) : Prop :=
  match s.form with
  | .asHeld => s.kind.Holds v
  | .textOrNumber => ∃ t, v = .text t
  | .listOfTexts => ∃ list, v = .texts list

namespace FileKey

theorem mem_keys_of_withSteps {steps : List String} {k : FileKey}
    (found : withSteps steps = some k) : k ∈ keys := by
  rw [withSteps_eq] at found
  exact List.mem_of_find?_eq_some found

theorem steps_of_withSteps {steps : List String} {k : FileKey}
    (found : withSteps steps = some k) : k.steps = steps := by
  rw [withSteps_eq] at found
  simpa using List.find?_some found

end FileKey

namespace File

/-- Every value stands under a key of the grammar and has its form. -/
def WellFormed (f : File) : Prop :=
  ∀ k v, f.value k = some v → k ∈ FileKey.keys ∧ k.setting.Admits v

theorem wellFormed_empty : empty.WellFormed := by
  intro k v found
  contradiction

theorem WellFormed.put {f : File} (formed : f.WellFormed) {k : FileKey} {v : Option Value}
    (known : k ∈ FileKey.keys) (fits : ∀ given, v = some given → k.setting.Admits given) :
    (f.put k v).WellFormed := by
  intro other given found
  by_cases same : other = k
  · subst same
    rw [put_same] at found
    exact ⟨known, fits given found⟩
  · rw [put_other f v same] at found
    exact formed other given found

/-! ## Readers keep the form -/

theorem sorted_of_table {t : Tree} {built : Table} (read : table t = .ok built) :
    built.Sorted := by
  obtain ⟨entries, _, fold⟩ := bind_eq_ok.mp read
  refine foldlM_keeps Table.Sorted (fun start entry next sorted step => ?_) .nil fold
  obtain ⟨name, _, valueRead⟩ := bind_eq_ok.mp step
  obtain ⟨text, _, same⟩ := bind_eq_ok.mp valueRead
  rw [← pure_eq_ok.mp same]
  exact sorted.put name text

theorem holds_of_ofKind {k : Kind} {t : Tree} {v : Value} (read : ofKind k t = .ok v) :
    k.Holds v := by
  cases k with
  | table =>
      obtain ⟨built, tableRead, rfl⟩ := map_eq_ok.mp read
      exact sorted_of_table tableRead
  | _ =>
      obtain ⟨_, _, rfl⟩ := map_eq_ok.mp read
      exact trivial

theorem admits_of_ofKey {k : FileKey} {t : Tree} {v : Value} (read : ofKey k t = .ok v) :
    k.setting.Admits v := by
  unfold ofKey at read
  unfold Setting.Admits
  cases form : k.setting.form with
  | asHeld =>
      rw [form] at read
      exact holds_of_ofKind read
  | textOrNumber =>
      rw [form] at read
      obtain ⟨text, _, rfl⟩ := map_eq_ok.mp read
      exact ⟨text, rfl⟩
  | listOfTexts =>
      rw [form] at read
      obtain ⟨list, _, rfl⟩ := map_eq_ok.mp read
      exact ⟨list, rfl⟩

/-- What is given under a key has the form of the key. -/
theorem admits_of_optional {k : FileKey} {t : Tree} {v : Option Value}
    (read : Tree.optional (ofKey k) t = .ok v) :
    ∀ given, v = some given → k.setting.Admits given := by
  obtain ⟨absent, _, rest⟩ := bind_eq_ok.mp read
  cases absent with
  | true =>
      rintro given rfl
      cases pure_eq_ok.mp rest
  | false =>
      rintro given rfl
      obtain ⟨inner, keyRead, same⟩ := bind_eq_ok.mp rest
      cases pure_eq_ok.mp same
      exact admits_of_ofKey keyRead

/-- What every field of a record keeps, the record keeps. -/
theorem foldFields_keeps {σ : Type} {Good : σ → Prop} {field : String → Option (σ → Tree.Reader σ)}
    (each : ∀ name read, field name = some read → ∀ s t s', Good s → read s t = .ok s' → Good s')
    {entries : List (Tree × Tree)} {seen : List String} {s s' : σ} (good : Good s)
    (fold : Tree.foldFields field seen s entries = .ok s') : Good s' := by
  induction entries generalizing seen s with
  | nil =>
      cases fold
      exact good
  | cons entry rest ih =>
      obtain ⟨key, value⟩ := entry
      obtain ⟨name, _, found⟩ := bind_eq_ok.mp fold
      cases shape : field name with
      | none =>
          simp only [shape] at found
          contradiction
      | some read =>
          simp only [shape] at found
          split at found
          · contradiction
          · obtain ⟨next, step, later⟩ := bind_eq_ok.mp found
            exact ih (each name read shape s value next good step) later

theorem record_keeps {σ : Type} {Good : σ → Prop} {field : String → Option (σ → Tree.Reader σ)}
    (each : ∀ name read, field name = some read → ∀ s t s', Good s → read s t = .ok s' → Good s')
    {t : Tree} {s s' : σ} (good : Good s) (read : Tree.record field s t = .ok s') : Good s' := by
  obtain ⟨entries, _, fold⟩ := bind_eq_ok.mp read
  exact foldFields_keeps each good fold

/-! ## Blocks and whole files -/

/-- What each key of a block keeps, and what is taken into the blocks inside it and out of them
again, the whole block keeps. -/
theorem block_keeps (Good : List String → File → Prop)
    (put : ∀ {steps name f k t v}, Good steps f → FileKey.withSteps (steps ++ [name]) = some k →
      Tree.optional (ofKey k) t = .ok v → Good steps (f.put k v))
    (enter : ∀ {steps name f}, Good steps f →
      Good (steps ++ [name]) (f.addBlock (steps ++ [name])))
    (leave : ∀ {steps name f}, Good (steps ++ [name]) f → Good steps f)
    {depth : Nat} {steps : List String} {f f' : File} {t : Tree} (good : Good steps f)
    (read : block depth steps f t = .ok f') : Good steps f' := by
  induction depth generalizing steps f f' t with
  | zero => contradiction
  | succ depth ih =>
      refine record_keeps (fun name reader found start value next good step => ?_) good read
      simp only at found
      split at found
      next k known =>
        cases found
        obtain ⟨given, keyRead, same⟩ := bind_eq_ok.mp step
        rw [← pure_eq_ok.mp same]
        exact put good known keyRead
      next =>
        split at found
        · cases found
          obtain ⟨absent, _, rest⟩ := bind_eq_ok.mp step
          cases absent with
          | true =>
              rw [← pure_eq_ok.mp rest]
              exact good
          | false => exact leave (ih (enter good) rest)
        · contradiction

/-- A text sets nothing, or the file was read off the tree of its document. -/
theorem cases_of_decode {origin text : String} {f : File} (decoded : decode origin text = .ok f) :
    f = empty ∨ ∃ tree, (Document.ofText text).root = some tree ∧ ofTree tree = .ok f := by
  unfold decode at decoded
  simp only at decoded
  split at decoded
  · exact Or.inl (Except.ok.inj decoded).symm
  · next tree root =>
    split at decoded
    · contradiction
    · split at decoded
      · contradiction
      · split at decoded
        · exact Or.inl (Except.ok.inj decoded).symm
        · split at decoded
          next read =>
            cases decoded
            exact Or.inr ⟨tree, root, read⟩
          next => contradiction

theorem wellFormed_of_decode {origin text : String} {f : File}
    (decoded : decode origin text = .ok f) : f.WellFormed := by
  rcases cases_of_decode decoded with rfl | ⟨tree, _, read⟩
  · exact wellFormed_empty
  · exact block_keeps (fun _ => WellFormed)
      (fun good known keyRead =>
        good.put (FileKey.mem_keys_of_withSteps known) (admits_of_optional keyRead))
      id id wellFormed_empty read

/-! ## Blocks that stand in a file -/

/-- A key that is set stands at the top of the file or in one of its blocks. -/
def Encloses (f : File) : Prop :=
  ∀ k, (f.value k).isSome = true → k.steps.dropLast ≠ [] → f.hasBlock k.steps.dropLast = true

theorem encloses_empty : empty.Encloses := by
  intro k set
  contradiction

theorem Encloses.put {f : File} (enclosed : f.Encloses) {k : FileKey} (v : Option Value)
    (inside : k.steps.dropLast ≠ [] → f.hasBlock k.steps.dropLast = true) :
    (f.put k v).Encloses := by
  intro other set
  by_cases same : other = k
  · subst same
    exact inside
  · rw [put_other f v same] at set
    exact enclosed other set

theorem Encloses.addBlock {f : File} (enclosed : f.Encloses) (steps : List String) :
    (f.addBlock steps).Encloses := fun k set below =>
  (f.hasBlock_addBlock steps _).mpr (Or.inl (enclosed k set below))

theorem Encloses.hasBlock {f : File} (enclosed : f.Encloses) {k : FileKey} {block : List String}
    (set : (f.value k).isSome = true) (shape : k.steps.dropLast = block) (named : block ≠ []) :
    f.hasBlock block = true := by
  subst shape
  exact enclosed k set named

/-- The blocks of the receiver keys that are set stand in the file. -/
theorem Encloses.hasBlock_receiver {f : File} (enclosed : f.Encloses) {s : Setting}
    (double : s ∈ Setting.receiverAliases) :
    ((f.value (.older s)).isSome = true → f.hasBlock [FileKey.olderBlock] = true) ∧
      ((f.value (.own s)).isSome = true → f.hasBlock [FileKey.receiverBlock] = true) := by
  have each : ∀ s ∈ Setting.receiverAliases,
      (FileKey.own s).steps.dropLast = [FileKey.receiverBlock] := by decide
  exact ⟨fun older => enclosed.hasBlock older rfl nofun,
    fun own => enclosed.hasBlock own (each s double) nofun⟩

/-- Inside a block, that block and those around it stand in the file. -/
def EnclosesAround (steps : List String) (f : File) : Prop :=
  f.Encloses ∧ ∀ front, front <+: steps → front ≠ [] → f.hasBlock front = true

theorem encloses_of_decode {origin text : String} {f : File}
    (decoded : decode origin text = .ok f) : f.Encloses := by
  rcases cases_of_decode decoded with rfl | ⟨tree, _, read⟩
  · exact encloses_empty
  have start : EnclosesAround [] empty :=
    ⟨encloses_empty, fun front early filled => absurd (List.prefix_nil.mp early) filled⟩
  refine (block_keeps EnclosesAround ?_ ?_ ?_ start read).1
  · intro steps name f k t v ⟨enclosed, around⟩ known _
    refine ⟨enclosed.put _ ?_, around⟩
    rw [FileKey.steps_of_withSteps known, List.dropLast_concat]
    exact around _ (List.prefix_refl _)
  · intro steps name f ⟨enclosed, around⟩
    refine ⟨enclosed.addBlock _, fun front early filled => ?_⟩
    rw [hasBlock_addBlock]
    rcases List.prefix_concat_iff.mp early with whole | early
    · exact Or.inr whole
    · exact Or.inl (around front early filled)
  · intro steps name f ⟨enclosed, around⟩
    exact ⟨enclosed, fun front early => around front (early.trans (List.prefix_append _ _))⟩

end File

end LayeredConfig
