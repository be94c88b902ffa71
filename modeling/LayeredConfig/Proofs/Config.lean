import LayeredConfig.Config

/-!
# Leaves of a configuration

How the leaves of a configuration, values with their kinds, change when one
setting does.

Main statements: `Config.leaf_put_same`, `Config.leaf_put_other`, and
`Config.eq_of_leaves`, nothing of a configuration is hidden from its leaves.
-/

namespace LayeredConfig

def Value.IsOf (v : Value) (k : Kind) : Prop := (k.ofValue v).isSome = true

theorem Value.IsOf.exists_text {v : Value} (fits : v.IsOf .text) : ∃ t, v = .text t := by
  cases v <;> first | contradiction | exact ⟨_, rfl⟩

theorem Kind.toValue_of_ofValue {k : Kind} {v : Value} {given : k.Carrier}
    (found : k.ofValue v = some given) : k.toValue given = v := by
  cases k <;> cases v <;> cases found <;> rfl

theorem Kind.toValue_inj {k : Kind} {v w : k.Carrier} : k.toValue v = k.toValue w ↔ v = w := by
  constructor
  · intro same
    have read := congrArg k.ofValue same
    rw [Kind.ofValue_toValue, Kind.ofValue_toValue] at read
    exact Option.some.inj read
  · rintro rfl
    rfl

namespace Config

@[simp] theorem leaf_set_same (c : Config) (s : Setting) (v : s.Value) :
    (c.set s v).leaf s = s.kind.toValue v := by
  rw [leaf, set_same]

theorem leaf_set_other (c : Config) {s t : Setting} (v : s.Value) (differ : t ≠ s) :
    (c.set s v).leaf t = c.leaf t := by
  rw [leaf, leaf, c.set_other v differ]

theorem leaf_put_same (c : Config) {s : Setting} {v : Value} (fits : v.IsOf s.kind) :
    (c.put s v).leaf s = v := by
  obtain ⟨given, found⟩ := Option.isSome_iff_exists.mp fits
  rw [put, found]
  exact (leaf_set_same c s given).trans (Kind.toValue_of_ofValue found)

theorem leaf_put_other (c : Config) {s t : Setting} (v : Value) (differ : t ≠ s) :
    (c.put s v).leaf t = c.leaf t := by
  rw [leaf, leaf, c.put_other v differ]

/-- A setting has the value that its leaf shows. -/
theorem eq_of_leaf {c : Config} {s : Setting} {v : s.Value}
    (shown : c.leaf s = s.kind.toValue v) : c s = v :=
  Kind.toValue_inj.mp shown

/-- A configuration is determined by its leaves. -/
theorem eq_of_leaves {c c' : Config} (alike : ∀ s, c.leaf s = c'.leaf s) : c = c' := by
  have values : c.value = c'.value := funext fun s => Kind.toValue_inj.mp (alike s)
  exact congrArg Config.mk values

/-! ## The order of changes -/

theorem set_comm (c : Config) {s t : Setting} (differ : s ≠ t) (v : s.Value) (w : t.Value) :
    (c.set s v).set t w = (c.set t w).set s v := by
  refine eq_of_leaves fun u => ?_
  by_cases second : u = t
  · subst second
    rw [leaf_set_same, leaf_set_other _ _ (Ne.symm differ), leaf_set_same]
  · rw [leaf_set_other _ _ second]
    by_cases first : u = s
    · subst first
      rw [leaf_set_same, leaf_set_same]
    · rw [leaf_set_other _ _ first, leaf_set_other _ _ first, leaf_set_other _ _ second]

theorem put_comm (c : Config) {s t : Setting} (differ : s ≠ t) (v w : Value) :
    (c.put s v).put t w = (c.put t w).put s v := by
  unfold put
  split <;> split <;> first | rfl | exact c.set_comm differ _ _

theorem set_put_comm (c : Config) {s t : Setting} (differ : s ≠ t) (v : Value) (w : t.Value) :
    (c.put s v).set t w = (c.set t w).put s v := by
  unfold put
  split
  · exact c.set_comm differ _ _
  · rfl

/-- A leaf that is put back changes nothing. -/
theorem put_leaf (c : Config) (s : Setting) : c.put s (c.leaf s) = c := by
  have fits : (c.leaf s).IsOf s.kind := by
    rw [leaf, Value.IsOf, Kind.ofValue_toValue]
    rfl
  refine eq_of_leaves fun u => ?_
  by_cases same : u = s
  · subst same
    exact leaf_put_same c fits
  · exact leaf_put_other c _ same

end Config

end LayeredConfig
