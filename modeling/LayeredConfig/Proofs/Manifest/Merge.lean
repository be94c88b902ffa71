import LayeredConfig.Deprecation

/-!
# Merging manifests

An entry takes the place of one with the same key, else it goes to the end.  So
the keys of a merged manifest stay distinct, the last entry with a key counts,
and the keys keep the order in which they first appeared.

Main statement: `isMerge_foldl`.
-/

namespace LayeredConfig.Manifest

variable {entries others : List Deprecation}

/-- A list of entries with those of another one merged into it. -/
structure IsMerge (base external merged : List Deprecation) : Prop where
  /-- No key occurs twice. -/
  distinct : (merged.map Deprecation.key).Nodup
  /-- The last entry with a key counts, an entry of the base only if there is no other. -/
  last : ∀ key, merged.find? (·.key = key) =
    (external.reverse.find? (·.key = key)).or (base.find? (·.key = key))
  /-- The keys of the base come first, then the new ones as they first appear. -/
  order : merged.map Deprecation.key = base.map Deprecation.key ++
    ((external.map Deprecation.key).filter (· ∉ base.map Deprecation.key)).eraseDups

theorem keys_add (entries : List Deprecation) (e : Deprecation) :
    (add entries e).map Deprecation.key =
      if e.key ∈ entries.map Deprecation.key then entries.map Deprecation.key
      else entries.map Deprecation.key ++ [e.key] := by
  induction entries with
  | nil => rfl
  | cons first rest ih =>
      by_cases same : first.key = e.key
      · simp [add, same]
      · rw [add, if_neg same, List.map_cons, ih]
        by_cases known : e.key ∈ rest.map Deprecation.key
        · rw [if_pos known, List.map_cons, if_pos (List.mem_cons_of_mem _ known)]
        · have unknown : e.key ∉ first.key :: rest.map Deprecation.key := by
            rw [List.mem_cons, not_or]
            exact ⟨Ne.symm same, known⟩
          rw [if_neg known, List.map_cons, if_neg unknown, List.cons_append]

theorem find?_add (entries : List Deprecation) (e : Deprecation) (key : String) :
    (add entries e).find? (·.key = key) =
      if e.key = key then some e else entries.find? (·.key = key) := by
  induction entries with
  | nil => by_cases here : e.key = key <;> simp [add, here]
  | cons first rest ih =>
      by_cases same : first.key = e.key <;> by_cases here : e.key = key <;>
        by_cases front : first.key = key <;> simp_all [add]

theorem nodup_add (distinct : (entries.map Deprecation.key).Nodup) (e : Deprecation) :
    ((add entries e).map Deprecation.key).Nodup := by
  rw [keys_add]
  split
  next => exact distinct
  next unknown =>
    rw [List.nodup_append]
    refine ⟨distinct, List.nodup_cons.mpr ⟨List.not_mem_nil, List.nodup_nil⟩, ?_⟩
    intro key member other isNew
    rw [List.mem_singleton] at isNew
    rintro rfl
    exact unknown (isNew ▸ member)

theorem find?_foldl_add (entries others : List Deprecation) (key : String) :
    (others.foldl add entries).find? (·.key = key) =
      (others.reverse.find? (·.key = key)).or (entries.find? (·.key = key)) := by
  induction others generalizing entries with
  | nil => rfl
  | cons e rest ih =>
      rw [List.foldl_cons, ih, find?_add, List.reverse_cons, List.find?_append, Option.or_assoc]
      by_cases here : e.key = key <;> simp [here]

theorem keys_foldl_add (entries others : List Deprecation) :
    (others.foldl add entries).map Deprecation.key = entries.map Deprecation.key ++
      ((others.map Deprecation.key).filter (· ∉ entries.map Deprecation.key)).eraseDups := by
  induction others generalizing entries with
  | nil => simp
  | cons e rest ih =>
      rw [List.foldl_cons, ih, keys_add, List.map_cons]
      by_cases known : e.key ∈ entries.map Deprecation.key
      · rw [if_pos known, List.filter_cons_of_neg (by simpa using known)]
      · rw [if_neg known, List.filter_cons_of_pos (by simpa using known), List.eraseDups_cons,
          List.append_assoc, List.singleton_append, List.filter_filter]
        refine congrArg (fun keys : List String =>
          entries.map Deprecation.key ++ e.key :: keys.eraseDups) ?_
        refine List.filter_congr fun key _ => ?_
        rw [Bool.eq_iff_iff]
        simp only [List.mem_append, List.mem_singleton, not_or, decide_eq_true_eq, Bool.and_eq_true,
          Bool.not_eq_true', beq_eq_false_iff_ne]
        exact and_comm

theorem isMerge_foldl (distinct : (entries.map Deprecation.key).Nodup) :
    IsMerge entries others (others.foldl add entries) where
  distinct := by
    induction others generalizing entries with
    | nil => exact distinct
    | cons e rest ih => exact ih (nodup_add distinct e)
  last := find?_foldl_add entries others
  order := keys_foldl_add entries others

end LayeredConfig.Manifest
