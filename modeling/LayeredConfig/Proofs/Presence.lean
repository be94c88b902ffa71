import LayeredConfig.Presence
import LayeredConfig.Proofs.File.Place
import LayeredConfig.Proofs.Yaml.Key

/-!
# Keys that are set and keys that are seen

The scan for keys and the strict reader go over one text.  Both see the same
keys of a receiver block, unless the block carries a tag of the author's own:
the strict reader takes no notice of it, but to the scan the block is no mapping
then, and holds no key.

Main statements: `Presence.seen_of_older`, `Presence.seen_of_own`.
-/

namespace LayeredConfig

open Success
open Yaml (Tree Document isWord)

namespace Presence

/-- Does an entry of a mapping carry a tag of the author's own? -/
def tagsEntry (name : String) : Tree → Bool
  | .mapping _ entries =>
      entries.any fun entry => (Tree.text entry.1).toOption = some name && entry.2.ownTag.isSome
  | _ => false

/-- Does a block of a text carry a tag of the author's own? -/
def tagsBlock (text block : String) : Bool := (Document.ofText text).root.any (tagsEntry block)

theorem tagsEntry_mapping {tag : Option (List Char)} {entries : List (Tree × Tree)}
    {name : String} :
    tagsEntry name (.mapping tag entries) = true ↔
      ∃ entry ∈ entries, Tree.text entry.1 = .ok name ∧ entry.2.ownTag.isSome = true := by
  rw [tagsEntry, List.any_eq_true]
  refine exists_congr fun entry => and_congr_right fun _ => ?_
  rw [Bool.and_eq_true, decide_eq_true_eq]
  cases Tree.text entry.1 <;> simp [Except.toOption]

/-! ## What the scan collects -/

/-- A list that every entry with a name adds its part to. -/
theorem mem_ofEntries {field : Presence → List String}
    (part : String → Yaml.Value → List String) (bare : field {} = [])
    (each : ∀ p name v, field (add p name v) = field p ++ part name v)
    {entries : List (Yaml.Value × Yaml.Value)} {key : String} :
    key ∈ field (ofEntries entries) ↔
      ∃ e ∈ entries, ∃ name, e.1.text? = some name ∧ key ∈ part name e.2 := by
  have nothing : key ∉ field {} := by simp [bare]
  suffices folded : key ∈ field (ofEntries entries) ↔
      key ∈ field {} ∨ ∃ e ∈ entries, ∃ name, e.1.text? = some name ∧ key ∈ part name e.2 by
    rw [folded]
    exact or_iff_right nothing
  rw [ofEntries]
  generalize ({} : Presence) = p
  induction entries generalizing p with
  | nil => simp
  | cons e rest ih =>
      rw [List.foldl_cons, ih]
      cases named : e.1.text? with
      | none => simp [named]
      | some name => simp [named, each, or_assoc]

variable {entries : List (Yaml.Value × Yaml.Value)} {key : String}

theorem exists_block_iff {name v : Yaml.Value} {block : String} :
    (∃ n, name.text? = some n ∧ key ∈ if n = block then keysOf v else []) ↔
      name.text? = some block ∧ key ∈ keysOf v := by
  constructor
  · rintro ⟨n, named, inside⟩
    split at inside
    · next same =>
      subst same
      exact ⟨named, inside⟩
    · contradiction
  · rintro ⟨named, inside⟩
    refine ⟨block, named, ?_⟩
    rw [if_pos rfl]
    exact inside

theorem mem_legacy : key ∈ (ofEntries entries).legacy ↔
    ∃ e ∈ entries, e.1.text? = some legacyBlock ∧ key ∈ keysOf e.2 := by
  rw [mem_ofEntries (fun name v => if name = legacyBlock then keysOf v else []) rfl]
  · simp only [exists_block_iff]
  · intro p name v
    by_cases same : name = legacyBlock <;> simp [add, same]

theorem mem_canonical : key ∈ (ofEntries entries).canonical ↔
    ∃ e ∈ entries, e.1.text? = some canonicalBlock ∧ key ∈ keysOf e.2 := by
  rw [mem_ofEntries (fun name v => if name = canonicalBlock then keysOf v else []) rfl]
  · simp only [exists_block_iff]
  · intro p name v
    by_cases same : name = canonicalBlock <;> simp [add, same]

theorem mem_paths : key ∈ (ofEntries entries).paths ↔
    ∃ e ∈ entries, ∃ name, e.1.text? = some name ∧ key ∈ pathsAt name e.2 :=
  mem_ofEntries pathsAt rfl fun _ _ _ => rfl

theorem mem_keysOf {v : Yaml.Value} :
    key ∈ keysOf v ↔ ∃ inner, v = .mapping inner ∧ ∃ e ∈ inner, e.1.text? = some key := by
  cases v <;> simp [keysOf]

theorem mem_pathsAt_self (path : String) (v : Yaml.Value) : path ∈ pathsAt path v := by
  cases v <;> simp [pathsAt]

/-- A mapping shows each of its keys behind its own. -/
theorem mem_pathsAt_of_mem_keysOf {v : Yaml.Value} (path : String) (member : key ∈ keysOf v) :
    path ++ "." ++ key ∈ pathsAt path v := by
  obtain ⟨inner, rfl, e, inside, named⟩ := mem_keysOf.mp member
  rw [pathsAt]
  refine List.mem_cons_of_mem _ ?_
  clear member
  induction inner with
  | nil => contradiction
  | cons first rest ih =>
      rw [pathsBelow]
      rcases List.mem_cons.mp inside with rfl | later
      · rw [named]
        exact List.mem_append_left _ (mem_pathsAt_self _ _)
      · split
        · exact List.mem_append_right _ (ih later)
        · exact ih later

/-! ## What the scan sees of a block -/

section Block

variable {tree : Tree} {f : File} {k : FileKey} {block last : String}
  (shape : k.steps = [block, last]) (read : File.ofTree tree = .ok f)
  (set : (f.value k).isSome) (loose : Yaml.Value.ofTree tree = .ok (.mapping entries))
  (blockWord : isWord block.toList = true) (lastWord : isWord last.toList = true)

include shape read set

/-- A key that is set stands in a mapping under the name of its block. -/
theorem exists_block : ∃ tag inTree key inTag inside, tree = .mapping tag inTree ∧
    (key, .mapping inTag inside) ∈ inTree ∧ Tree.text key = .ok block ∧
      ∃ entry ∈ inside, Tree.text entry.1 = .ok last := by
  obtain ⟨t', leads⟩ := File.leads_of_ofTree read set
  rw [shape] at leads
  obtain ⟨tag, inTree, key, value, rfl, member, named, inTag, inside, key', value', rfl, within,
    named', _⟩ := leads
  exact ⟨tag, inTree, key, inTag, inside, rfl, member, named, (key', value'), within, named'⟩

include loose

/-- With such a tag it sees no key of the block. -/
theorem keysOf_tagged (tagged : tagsEntry block tree = true) :
    ∀ e ∈ entries, e.1.text? = some block → keysOf e.2 = [] := by
  obtain ⟨tag, inTree, key, inTag, inside, rfl, member, named, _⟩ := exists_block shape read set
  obtain ⟨⟨key', value'⟩, member', named', marked⟩ := tagsEntry_mapping.mp tagged
  have unique := File.eq_of_names read
  -- the entry with the tag is the one that holds the key
  obtain ⟨rfl, rfl⟩ := Prod.mk.inj (unique _ member' _ member (named'.trans named.symm))
  obtain ⟨name, own⟩ := Option.isSome_iff_exists.mp marked
  intro e seen isBlock
  obtain ⟨entry, stands, nameRead, valueRead⟩ :=
    (Yaml.Value.reads_of_ofEntries (Yaml.Value.ofEntries_of_ofTree loose)).2 e seen
  have namedEntry := Yaml.Value.text_of_text? nameRead isBlock
  obtain rfl := unique entry stands _ member (namedEntry.trans named.symm)
  obtain ⟨_, _, read⟩ := Yaml.Value.ofTree_mapping valueRead
  rw [read, Yaml.Value.withTag_of_some own]
  rfl

include blockWord lastWord

/-- Without one, it sees the key. -/
theorem exists_seen (plain : tagsEntry block tree = false) :
    ∃ e ∈ entries, e.1.text? = some block ∧ last ∈ keysOf e.2 := by
  obtain ⟨tag, inTree, key, inTag, inside, rfl, member, named, inner, within, named'⟩ :=
    exists_block shape read set
  obtain ⟨⟨name, v⟩, seen, nameRead, blockRead⟩ :=
    (Yaml.Value.reads_of_ofEntries (Yaml.Value.ofEntries_of_ofTree loose)).1 _ member
  have untagged : Yaml.Value.ownTag inTag = none := by
    cases own : Yaml.Value.ownTag inTag with
    | none => rfl
    | some tag' =>
        have marked : (Tree.mapping inTag inside).ownTag.isSome = true := by
          rw [Tree.ownTag, own]
          rfl
        rw [tagsEntry_mapping.mpr ⟨_, member, named, marked⟩] at plain
        cases plain
  obtain ⟨within', insideRead, same⟩ := Yaml.Value.ofTree_mapping blockRead
  rw [Yaml.Value.withTag_of_none untagged] at same
  obtain ⟨⟨name', v'⟩, seen', nameRead', _⟩ :=
    (Yaml.Value.reads_of_ofEntries insideRead).1 inner within
  refine ⟨(name, v), seen, Yaml.Value.text?_of_text named blockWord nameRead, ?_⟩
  have isLast := Yaml.Value.text?_of_text named' lastWord nameRead'
  exact mem_keysOf.mpr ⟨within', same, (name', v'), seen', isLast⟩

/-- Then the dotted key is on record too. -/
theorem path_seen (plain : tagsEntry block tree = false) :
    k.path ∈ (ofEntries entries).paths := by
  obtain ⟨e, member, named, inside⟩ := exists_seen shape read set loose blockWord lastWord plain
  have path : k.path = block ++ "." ++ last := by
    rw [FileKey.path, shape]
    rfl
  rw [path]
  exact mem_paths.mpr ⟨e, member, block, named, mem_pathsAt_of_mem_keysOf block inside⟩

/-- A tag of the author's own on the block hides all of its keys, and nothing else hides one that
is set. -/
theorem seen_of_block {keys : List String}
    (isKey : ∀ key, key ∈ keys ↔ ∃ e ∈ entries, e.1.text? = some block ∧ key ∈ keysOf e.2) :
    (tagsEntry block tree = true → ∀ key, keys.contains key = false) ∧
      (tagsEntry block tree = false →
        keys.contains last = true ∧ (ofEntries entries).hasPath k.path = true) := by
  simp only [hasPath, ← Bool.not_eq_true, List.contains_iff_mem]
  constructor
  · intro tagged key member
    obtain ⟨e, stands, named, inside⟩ := (isKey key).mp member
    rw [keysOf_tagged shape read set loose tagged e stands named] at inside
    contradiction
  · intro plain
    rw [Bool.not_eq_true] at plain
    exact ⟨(isKey last).mpr (exists_seen shape read set loose blockWord lastWord plain),
      path_seen shape read set loose blockWord lastWord plain⟩

end Block

/-! ## Both readings of one text -/

/-- The scan of a text whose document is a mapping. -/
theorem exists_entries_of_ofText {text : String} {p : Presence} {tag : Option (List Char)}
    {inTree : List (Tree × Tree)} (scanned : ofText text = .ok p)
    (root : (Document.ofText text).root = some (.mapping tag inTree)) :
    ∃ entries, Yaml.Value.ofTree (.mapping tag inTree) = .ok (.mapping entries) ∧
      p = ofEntries entries := by
  unfold ofText at scanned
  split at scanned
  · cases scanned
  · next whole =>
    -- a mapping is not read as null
    obtain ⟨inner, _, same⟩ :=
      Yaml.Value.ofTree_mapping (Yaml.Value.ofTree_of_ofText root whole)
    unfold Yaml.Value.withTag at same
    split at same <;> cases same
  · next entries whole =>
    cases scanned
    exact ⟨entries, Yaml.Value.ofTree_of_ofText root whole, rfl⟩
  · cases scanned

/-- A text that sets a key of a block, as both readers find it. -/
theorem exists_readings {origin text : String} {f : File} {p : Presence} {k : FileKey}
    {block last : String} (shape : k.steps = [block, last])
    (decoded : File.decode origin text = .ok f) (scanned : ofText text = .ok p)
    (set : (f.value k).isSome) :
    ∃ tree entries, File.ofTree tree = .ok f ∧ Yaml.Value.ofTree tree = .ok (.mapping entries) ∧
      p = ofEntries entries ∧ tagsBlock text block = tagsEntry block tree := by
  obtain ⟨tree, root, read⟩ := File.exists_tree_of_decode decoded set
  obtain ⟨tag, inTree, _, _, _, rfl, _⟩ := exists_block shape read set
  obtain ⟨entries, loose, same⟩ := exists_entries_of_ofText scanned root
  refine ⟨_, entries, read, loose, same, ?_⟩
  rw [tagsBlock, root]
  rfl

/-- The names of receiver keys. -/
theorem names_of_double {s : Setting} (double : s ∈ Setting.receiverAliases) :
    (FileKey.older s).steps = [legacyBlock, s.lastStep] ∧
      (FileKey.own s).steps = [canonicalBlock, s.lastStep] ∧ isWord s.lastStep.toList = true := by
  have each : ∀ s ∈ Setting.receiverAliases,
      (FileKey.older s).steps = [legacyBlock, s.lastStep] ∧
        (FileKey.own s).steps = [canonicalBlock, s.lastStep] ∧
          isWord s.lastStep.toList = true := by decide
  exact each s double

section Receiver

variable {origin text : String} {f : File} {p : Presence} {s : Setting}
  (decoded : File.decode origin text = .ok f) (scanned : ofText text = .ok p)
  (double : s ∈ Setting.receiverAliases)

include decoded scanned double

/-- The keys of the older block. -/
theorem seen_of_older (set : (f.value (.older s)).isSome) :
    (tagsBlock text legacyBlock = true → ∀ key, p.hasLegacy key = false) ∧
      (tagsBlock text legacyBlock = false →
        p.hasLegacy s.lastStep = true ∧ p.hasPath (FileKey.older s).path = true) := by
  obtain ⟨steps, _, lastWord⟩ := names_of_double double
  obtain ⟨tree, entries, read, loose, rfl, same⟩ := exists_readings steps decoded scanned set
  rw [same]
  exact seen_of_block steps read set loose (by decide) lastWord fun _ => mem_legacy

/-- The keys of the receiver block. -/
theorem seen_of_own (set : (f.value (.own s)).isSome) :
    (tagsBlock text canonicalBlock = true → ∀ key, p.hasCanonical key = false) ∧
      (tagsBlock text canonicalBlock = false →
        p.hasCanonical s.lastStep = true ∧ p.hasPath (FileKey.own s).path = true) := by
  obtain ⟨_, steps, lastWord⟩ := names_of_double double
  obtain ⟨tree, entries, read, loose, rfl, same⟩ := exists_readings steps decoded scanned set
  rw [same]
  exact seen_of_block steps read set loose (by decide) lastWord fun _ => mem_canonical

end Receiver

end Presence

end LayeredConfig
