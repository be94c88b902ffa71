import LayeredConfig.Setting.Basic

/-!
# Tables in the order of their names

A table that was built entry by entry holds its names in order, each once.  To
put the entries of such a table one by one into an empty table gives the table
back.

Main statements: `Table.Sorted.put`, `Table.foldl_put_nil`.
-/

namespace LayeredConfig.Table

/-- The names stand in order, each once. -/
def Sorted (t : Table) : Prop := t.Pairwise fun a b => a.1 < b.1

theorem Sorted.nil : Sorted [] := List.Pairwise.nil

/-- The names after an entry was put are those before and the new one. -/
theorem mem_put {key text : String} {t : Table} {entry : String × String}
    (member : entry ∈ t.put key text) : entry = (key, text) ∨ entry ∈ t := by
  induction t with
  | nil => exact Or.inl (List.mem_singleton.mp member)
  | cons first rest ih =>
      obtain ⟨k, v⟩ := first
      unfold Table.put at member
      split at member
      · rcases List.mem_cons.mp member with same | later
        · exact Or.inl same
        · exact Or.inr (List.mem_cons_of_mem _ later)
      · split at member
        · exact List.mem_cons.mp member
        · rcases List.mem_cons.mp member with same | later
          · exact Or.inr (List.mem_cons.mpr (Or.inl same))
          · exact (ih later).imp_right (List.mem_cons_of_mem _)

theorem Sorted.put {t : Table} (sorted : t.Sorted) (key text : String) :
    Sorted (t.put key text) := by
  induction t with
  | nil => exact List.pairwise_singleton _ _
  | cons first rest ih =>
      obtain ⟨k, v⟩ := first
      obtain ⟨below, restSorted⟩ := List.pairwise_cons.mp sorted
      unfold Table.put
      split
      next same =>
        subst same
        exact List.pairwise_cons.mpr ⟨below, restSorted⟩
      next differ =>
        split
        next front =>
          refine List.pairwise_cons.mpr ⟨fun entry member => ?_, sorted⟩
          rcases List.mem_cons.mp member with rfl | later
          · exact front
          · exact String.lt_trans front (below entry later)
        next behind =>
          have between : k < key := by
            rcases Std.lt_trichotomy k key with less | same | greater
            · exact less
            · exact absurd same differ
            · exact absurd greater behind
          refine List.pairwise_cons.mpr ⟨fun entry member => ?_, ih restSorted⟩
          rcases mem_put member with rfl | old
          · exact between
          · exact below entry old

/-- An entry behind all others is put at the end. -/
theorem put_eq_append {key text : String} {t : Table} (behind : ∀ entry ∈ t, entry.1 < key) :
    t.put key text = t ++ [(key, text)] := by
  induction t with
  | nil => rfl
  | cons first rest ih =>
      obtain ⟨k, v⟩ := first
      rw [List.forall_mem_cons] at behind
      have differ : k ≠ key := by
        rintro rfl
        exact String.lt_irrefl k behind.1
      have notFront : ¬key < k := String.lt_asymm behind.1
      rw [Table.put, if_neg differ, if_neg notFront, ih behind.2, List.cons_append]

theorem foldl_put_append {front back : Table} (sorted : Sorted (front ++ back)) :
    back.foldl (fun built entry => Table.put entry.1 entry.2 built) front = front ++ back := by
  induction back generalizing front with
  | nil => rw [List.foldl_nil, List.append_nil]
  | cons entry rest ih =>
      have behind : ∀ other ∈ front, other.1 < entry.1 := fun other member =>
        (List.pairwise_append.mp sorted).2.2 other member entry List.mem_cons_self
      rw [List.foldl_cons, put_eq_append behind, ih (by rwa [List.append_assoc]),
        List.append_assoc, List.singleton_append]

/-- The entries of a table in order, put one by one into an empty table, give the table back. -/
theorem foldl_put_nil {t : Table} (sorted : t.Sorted) :
    t.foldl (fun built entry => Table.put entry.1 entry.2 built) [] = t :=
  foldl_put_append (by rwa [List.nil_append])

end LayeredConfig.Table
