import LayeredConfig.Proofs.File.Form

/-!
# Where the values of a file stand

A value of a decoded file stands in the document under its dotted key: the tree
leads to it from entry to entry.  No name stands twice in one mapping, so there
is one way to it.

Main statements: `File.leads_of_ofTree`, `File.eq_of_names`.
-/

namespace LayeredConfig

open Success
open Yaml (Tree Document)

/-- A way through a tree from entry to entry. -/
def Yaml.Tree.Leads : Tree → List String → Tree → Prop
  | t, [], t' => t = t'
  | t, name :: rest, t' => ∃ tag entries key value, t = .mapping tag entries ∧
      (key, value) ∈ entries ∧ Tree.text key = .ok name ∧ value.Leads rest t'

namespace File

/-- What a record says behind its fields and not in front, one of its entries said. -/
theorem exists_entry_of_foldFields {σ : Type} {P : σ → Prop}
    {field : String → Option (σ → Tree.Reader σ)} {entries : List (Tree × Tree)}
    {seen : List String} {s s' : σ} (fold : Tree.foldFields field seen s entries = .ok s')
    (before : ¬P s) (after : P s') :
    ∃ key value name read t t', (key, value) ∈ entries ∧ Tree.text key = .ok name ∧
      field name = some read ∧ read t value = .ok t' ∧ ¬P t ∧ P t' := by
  induction entries generalizing seen s with
  | nil =>
      cases fold
      exact absurd after before
  | cons entry rest ih =>
      obtain ⟨key, value⟩ := entry
      obtain ⟨name, named, found⟩ := bind_eq_ok.mp fold
      cases shape : field name with
      | none =>
          simp only [shape] at found
          contradiction
      | some read =>
          simp only [shape] at found
          split at found
          · contradiction
          · obtain ⟨next, step, later⟩ := bind_eq_ok.mp found
            by_cases said : P next
            · exact ⟨key, value, name, read, s, next, List.mem_cons_self, named, shape, step,
                before, said⟩
            · obtain ⟨key', value', name', read', t, t', member, facts⟩ := ih later said
              exact ⟨key', value', name', read', t, t', List.mem_cons_of_mem _ member, facts⟩

/-- No name stands twice in a record, and none that was seen before. -/
theorem names_of_foldFields {σ : Type} {field : String → Option (σ → Tree.Reader σ)}
    {entries : List (Tree × Tree)} {seen : List String} {s s' : σ}
    (fold : Tree.foldFields field seen s entries = .ok s') :
    (∀ a ∈ entries, ∀ name ∈ seen, Tree.text a.1 ≠ .ok name) ∧
      ∀ a ∈ entries, ∀ b ∈ entries, Tree.text a.1 = Tree.text b.1 → a = b := by
  induction entries generalizing seen s with
  | nil => simp
  | cons entry rest ih =>
      obtain ⟨key, value⟩ := entry
      obtain ⟨name, named, found⟩ := bind_eq_ok.mp fold
      cases shape : field name with
      | none =>
          simp only [shape] at found
          contradiction
      | some read =>
          simp only [shape] at found
          split at found
          · contradiction
          · next fresh =>
            obtain ⟨next, step, later⟩ := bind_eq_ok.mp found
            obtain ⟨unseen, unique⟩ := ih later
            have apart : ∀ a ∈ rest, Tree.text a.1 ≠ Tree.text key := by
              intro a inRest same
              exact unseen a inRest name List.mem_cons_self (same.trans named)
            constructor
            · intro a member early inFront named'
              rcases List.mem_cons.mp member with rfl | inRest
              · rw [← Except.ok.inj (named.symm.trans named')] at inFront
                exact fresh (List.contains_iff_mem.mpr inFront)
              · exact unseen a inRest early (List.mem_cons_of_mem _ inFront) named'
            · intro a first b second same
              rcases List.mem_cons.mp first with rfl | inRest
              · rcases List.mem_cons.mp second with rfl | inRest'
                · rfl
                · exact absurd same.symm (apart b inRest')
              · rcases List.mem_cons.mp second with rfl | inRest'
                · exact absurd same (apart a inRest)
                · exact unique a inRest b inRest' same

theorem mapping_of_entries {t : Tree} {entries : List (Tree × Tree)} {entry : Tree × Tree}
    (read : Tree.entries t = .ok entries) (member : entry ∈ entries) :
    ∃ tag, t = .mapping tag entries := by
  cases t with
  | mapping tag inner =>
      cases read
      exact ⟨tag, rfl⟩
  | scalar tag cs style =>
      rw [Tree.entries] at read
      split at read
      · cases read
        contradiction
      · cases read
  | sequence _ _ | broken => cases read

/-- A change of one key sets no other. -/
theorem eq_of_put {f : File} {k other : FileKey} {v : Option Value}
    (unset : ¬(f.value k).isSome) (set : ((f.put other v).value k).isSome) : k = other := by
  by_cases same : k = other
  · exact same
  · rw [put_other f v same] at set
    exact absurd set unset

/-- A value that a block gives to a key stands inside the block, further down the key. -/
theorem leads_of_block {depth : Nat} {steps : List String} {f f' : File} {t : Tree} {k : FileKey}
    (read : block depth steps f t = .ok f') (unset : ¬(f.value k).isSome)
    (set : (f'.value k).isSome) :
    ∃ rest t', k.steps = steps ++ rest ∧ t.Leads rest t' := by
  induction depth generalizing steps f f' t with
  | zero => contradiction
  | succ depth ih =>
      obtain ⟨entries, shape, fold⟩ := bind_eq_ok.mp read
      obtain ⟨key, value, name, field, g, g', member, named, found, step, unset, set⟩ :=
        exists_entry_of_foldFields (P := fun f => (f.value k).isSome) fold unset set
      obtain ⟨tag, rfl⟩ := mapping_of_entries shape member
      simp only at found
      split at found
      next known keyFound =>
        cases found
        obtain ⟨given, _, same⟩ := bind_eq_ok.mp step
        obtain rfl := pure_eq_ok.mp same
        obtain rfl := eq_of_put unset set
        refine ⟨[name], value, FileKey.steps_of_withSteps keyFound, ?_⟩
        exact ⟨tag, entries, key, value, rfl, member, named, rfl⟩
      next =>
        split at found
        · cases found
          obtain ⟨absent, _, rest⟩ := bind_eq_ok.mp step
          cases absent with
          | true =>
              obtain rfl := pure_eq_ok.mp rest
              exact absurd set unset
          | false =>
              obtain ⟨below, t', split, leads⟩ := ih rest unset set
              refine ⟨name :: below, t', ?_, tag, entries, key, value, rfl, member, named, leads⟩
              rw [split, List.append_assoc]
              rfl
        · contradiction

/-- A file that sets a key was read off the tree of its text. -/
theorem exists_tree_of_decode {origin text : String} {f : File} {k : FileKey}
    (decoded : decode origin text = .ok f) (set : (f.value k).isSome) :
    ∃ tree, (Document.ofText text).root = some tree ∧ ofTree tree = .ok f := by
  have notEmpty : f ≠ empty := by
    rintro rfl
    cases set
  exact (cases_of_decode decoded).resolve_left notEmpty

/-- The tree of a text leads to every key that the text sets. -/
theorem leads_of_ofTree {tree : Tree} {f : File} {k : FileKey} (read : ofTree tree = .ok f)
    (set : (f.value k).isSome) : ∃ t', tree.Leads k.steps t' := by
  have unset : ¬(empty.value k).isSome := by simp [empty]
  obtain ⟨rest, t', split, leads⟩ := leads_of_block read unset set
  rw [split]
  exact ⟨t', leads⟩

/-- No name stands twice at the top of a file. -/
theorem eq_of_names {tag : Option (List Char)} {entries : List (Tree × Tree)} {f : File}
    (read : ofTree (.mapping tag entries) = .ok f) :
    ∀ a ∈ entries, ∀ b ∈ entries, Tree.text a.1 = Tree.text b.1 → a = b := by
  obtain ⟨_, shape, fold⟩ := bind_eq_ok.mp read
  cases shape
  exact (names_of_foldFields fold).2

end File

end LayeredConfig
