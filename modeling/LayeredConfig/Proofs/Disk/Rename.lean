import LayeredConfig.Disk.Basic

/-!
# Disks after a rename

A rename moves what stands at and below one place to another and touches nothing
else.  The working directory moves along if it is there.

Main statements: `Disk.look_move_target`, `Disk.look_move_source`,
`Disk.look_move_other`, what stands where; `Disk.here_move`.
-/

namespace LayeredConfig.Disk

variable {d d' : Disk} {source target p q : Place}

/-! ## What stands where -/

theorem look_remove (d : Disk) (notRoot : p ≠ []) (q : Place) :
    (d.remove p).look q = if p.isPrefixOf q then none else d.look q := by
  unfold look remove
  by_cases root : q = []
  · subst root
    cases p with
    | nil => contradiction
    | cons _ _ => rfl
  · simp only [root, if_false, List.find?_filter]
    by_cases below : p.isPrefixOf q = true
    · rw [if_pos below, Option.map_eq_none_iff, List.find?_eq_none]
      intro entry _
      by_cases same : entry.1 = q
      · simp [same, below]
      · simp [same]
    · rw [if_neg below]
      congr 2
      funext entry
      by_cases same : entry.1 = q
      · simp [same, below]
      · simp [same]

/-- Nodes put on a disk one after the other: the first one for a place is the one put last. -/
theorem look_foldr_put (place : Place × Node → Place) (nodes : List (Place × Node)) (d : Disk)
    (notRoot : ∀ entry, place entry ≠ []) :
    (nodes.foldr (fun entry disk => disk.put (place entry) entry.2) d).look q =
      ((nodes.find? fun entry => place entry = q).map (·.2)).or (d.look q) := by
  induction nodes with
  | nil => rfl
  | cons entry rest ih =>
      rw [List.foldr_cons, List.find?_cons]
      by_cases here : place entry = q
      · subst here
        rw [look_put_same _ _ (notRoot entry)]
        simp
      · rw [look_put_other _ _ (Ne.symm here), ih]
        simp [here]

theorem look_move (d : Disk) (notRoot : source ≠ []) (notRoot' : target ≠ []) (q : Place) :
    (d.move source target).look q =
      (((d.nodes.filter fun entry => source.isPrefixOf entry.1).find? fun entry =>
        target ++ entry.1.drop source.length = q).map (·.2)).or
        (if target.isPrefixOf q then none
          else if source.isPrefixOf q then none else d.look q) := by
  have noRoot : ∀ entry : Place × Node, target ++ entry.1.drop source.length ≠ [] := by
    intro entry none
    exact notRoot' (List.append_eq_nil_iff.mp none).1
  have looks := look_foldr_put (q := q) (fun entry => target ++ entry.1.drop source.length)
    (d.nodes.filter fun entry => source.isPrefixOf entry.1) ((d.remove source).remove target) noRoot
  rw [look_remove _ notRoot', look_remove _ notRoot] at looks
  rw [← looks]
  unfold move
  split <;> rfl

/-- What stood at and below the source stands at and below the target. -/
theorem look_move_target (d : Disk) (notRoot : source ≠ []) (notRoot' : target ≠ [])
    (rest : Place) : (d.move source target).look (target ++ rest) = d.look (source ++ rest) := by
  have below : target.isPrefixOf (target ++ rest) = true :=
    List.isPrefixOf_iff_prefix.mpr (List.prefix_append _ _)
  rw [look_move d notRoot notRoot', if_pos below, Option.or_none, List.find?_filter]
  have there : source ++ rest ≠ [] := fun none => notRoot (List.append_eq_nil_iff.mp none).1
  rw [look, if_neg there]
  congr 2
  funext entry
  have same : source.isPrefixOf entry.1 = true ∧
      target ++ entry.1.drop source.length = target ++ rest ↔ entry.1 = source ++ rest := by
    rw [List.append_cancel_left_eq, List.isPrefixOf_iff_prefix]
    constructor
    · rintro ⟨⟨behind, whole⟩, same⟩
      rw [← whole, List.drop_left] at same
      rw [← whole, same]
    · intro whole
      rw [whole, List.drop_left]
      exact ⟨List.prefix_append _ _, rfl⟩
  rw [decide_eq_decide, decide_eq_true_eq]
  exact same

theorem find?_moved_eq_none (notBelow : ¬target <+: q) :
    ((d.nodes.filter fun entry => source.isPrefixOf entry.1).find? fun entry =>
      target ++ entry.1.drop source.length = q) = none := by
  rw [List.find?_eq_none]
  intro entry _
  rw [decide_eq_true_eq]
  rintro rfl
  exact notBelow (List.prefix_append _ _)

/-- Nothing stands at and below the source any more, unless it holds the target. -/
theorem look_move_source (d : Disk) (notRoot : source ≠ []) (notRoot' : target ≠ [])
    (below : source <+: q) (notBelow : ¬target <+: q) : (d.move source target).look q = none := by
  rw [look_move d notRoot notRoot', find?_moved_eq_none notBelow]
  simp [List.isPrefixOf_iff_prefix, below]

/-- Everything else stands where it stood. -/
theorem look_move_other (d : Disk) (notRoot : source ≠ []) (notRoot' : target ≠ [])
    (notBelow : ¬source <+: q) (notBelow' : ¬target <+: q) :
    (d.move source target).look q = d.look q := by
  rw [look_move d notRoot notRoot', find?_moved_eq_none notBelow']
  simp [List.isPrefixOf_iff_prefix, notBelow, notBelow']

/-! ## Where a place is afterwards -/

/-- Where a place is after a move from the source to the target. -/
def relocate (source target p : Place) : Place :=
  if source.isPrefixOf p then target ++ p.drop source.length else p

theorem relocate_append (source target rest : Place) :
    relocate source target (source ++ rest) = target ++ rest := by
  have below : source.isPrefixOf (source ++ rest) = true :=
    List.isPrefixOf_iff_prefix.mpr (List.prefix_append _ _)
  rw [relocate, if_pos below, List.drop_left]

theorem relocate_other (target : Place) (out : ¬source <+: p) : relocate source target p = p := by
  rw [relocate, if_neg (fun below => out (List.isPrefixOf_iff_prefix.mp below))]

/-- A place is at or below the source and moves along, or it stays. -/
theorem cases_relocate (source target p : Place) :
    (∃ rest, p = source ++ rest ∧ relocate source target p = target ++ rest) ∨
      (¬source <+: p ∧ relocate source target p = p) := by
  by_cases below : source <+: p
  · obtain ⟨rest, rfl⟩ := below
    exact Or.inl ⟨rest, rfl, relocate_append source target rest⟩
  · exact Or.inr ⟨below, relocate_other target below⟩

theorem here_foldr_put (place : Place × Node → Place) (nodes : List (Place × Node)) (d : Disk) :
    (nodes.foldr (fun entry disk => disk.put (place entry) entry.2) d).here = d.here := by
  induction nodes with
  | nil => rfl
  | cons entry rest ih => exact ih

/-- A working directory that is moved stays the working directory. -/
theorem here_move (d : Disk) (source target : Place) :
    (d.move source target).here = relocate source target d.here := by
  unfold move relocate
  split
  · rfl
  · exact here_foldr_put _ _ _

/-! ## Two names in one directory -/

/-- Two names of one directory. -/
def Beside (source target : Place) : Prop :=
  ∃ p a b, a ≠ b ∧ source = p ++ [a] ∧ target = p ++ [b]

namespace Beside

variable (beside : Beside source target)
include beside

theorem symm : Beside target source := by
  obtain ⟨p, a, b, differ, shape, shape'⟩ := beside
  exact ⟨p, b, a, differ.symm, shape', shape⟩

theorem notRoot : source ≠ [] := by
  obtain ⟨p, a, b, _, rfl, _⟩ := beside
  exact List.append_ne_nil_of_right_ne_nil _ nofun

theorem not_prefix : ¬source <+: target := by
  obtain ⟨p, a, b, differ, rfl, rfl⟩ := beside
  rw [List.prefix_append_right_inj]
  intro below
  exact differ (List.singleton_inj.mp (below.eq_of_length rfl))

theorem not_prefix_append (rest : Place) : ¬source <+: target ++ rest := by
  intro below
  have short : source.length ≤ target.length := by
    obtain ⟨p, a, b, _, rfl, rfl⟩ := beside
    simp
  exact beside.not_prefix
    (List.prefix_of_prefix_length_le below (List.prefix_append target rest) short)

theorem dropLast_eq : source.dropLast = target.dropLast := by
  obtain ⟨p, a, b, _, rfl, rfl⟩ := beside
  simp

theorem prefix_dropLast {q : Place} (below : q <+: source) (strict : ¬source <+: q) :
    q <+: source.dropLast := by
  obtain ⟨p, a, b, _, rfl, _⟩ := beside
  rw [List.dropLast_concat]
  rcases List.prefix_concat_iff.mp below with rfl | before
  · exact absurd (List.prefix_refl _) strict
  · exact before

theorem not_prefix_dropLast : ¬source <+: source.dropLast := by
  intro below
  have := below.length_le
  have := List.length_pos_iff.mpr beside.notRoot
  rw [List.length_dropLast] at *
  omega

/-- To go up and to move can be done in either order. -/
theorem relocate_dropLast (p : Place) :
    relocate source target p.dropLast = (relocate source target p).dropLast := by
  rcases cases_relocate source target p with ⟨rest, rfl, moved⟩ | ⟨out, same⟩
  · rw [moved]
    by_cases whole : rest = []
    · subst whole
      rw [List.append_nil, List.append_nil, relocate_other target beside.not_prefix_dropLast,
        beside.dropLast_eq]
    · rw [List.dropLast_append_of_ne_nil whole, List.dropLast_append_of_ne_nil whole,
        relocate_append]
  · rw [same, relocate_other target fun below => out (below.trans (List.dropLast_prefix p))]

theorem relocate_nil : relocate source target [] = [] :=
  relocate_other target fun below => beside.notRoot (List.prefix_nil.mp below)

end Beside

end LayeredConfig.Disk
