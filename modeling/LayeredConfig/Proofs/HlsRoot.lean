import LayeredConfig.HlsRoot
import LayeredConfig.Proofs.Disk

/-!
# The search for the root of the live stream

The search looks up no variable.  The time tells in the text of the marker only:
with another clock it finds the same root, and the disk behind it is the same but
for that text.

Main statements: `HlsRoot.asked_resolve`, `HlsRoot.resolve_clock`.
-/

namespace LayeredConfig.HlsRoot

/-! ## Variables -/

theorem asked_settle (d : Disk) (result : Except Failure Resolution) (warnings : List Warning) :
    (settle d result warnings).1.asked = [] := rfl

theorem asked_migrate (d : Disk) (now older target : String) :
    (migrate d now older target).1.asked = [] := by
  unfold migrate
  split
  · exact asked_settle _ _ _
  · simp only
    split <;> exact asked_settle _ _ _

theorem asked_derive (d : Disk) (now directory : String) :
    (derive d now directory).1.asked = [] := by
  unfold derive
  simp only
  split <;> first | exact asked_settle _ _ _ | exact asked_migrate _ _ _ _

/-- The search for the root of the live stream looks up no variable. -/
theorem asked_resolve (d : Disk) (now : String) (inputs : Inputs) :
    (resolve d now inputs).1.asked = [] := by
  unfold resolve
  split
  · exact asked_settle _ _ _
  · split
    · exact asked_settle _ _ _
    · split
      · exact asked_settle _ _ _
      · split
        · exact asked_settle _ _ _
        · exact asked_derive _ _ _

/-! ## The clock -/

/-- The disks are the same, or they are the same up to the time in the marker. -/
def SameDisk (now now' : String) (d d' : Disk) : Prop :=
  d' = d ∨ ∃ (moved : Disk) (p : Place) (older : String), p ≠ [] ∧
    d = moved.put p (.file (.text (markerText older now))) ∧
      d' = moved.put p (.file (.text (markerText older now')))

/-- The outcomes are the same up to the time in the marker. -/
def SameOutcome (now now' : String) (o o' : Outcome) : Prop :=
  o'.1 = o.1 ∧ SameDisk now now' o.2 o'.2

variable {now now' : String}

theorem SameOutcome.refl (o : Outcome) : SameOutcome now now' o o :=
  ⟨rfl, Or.inl rfl⟩

theorem migrate_clock (d : Disk) (older target : String) :
    SameOutcome now now' (migrate d now older target) (migrate d now' older target) := by
  unfold migrate
  cases d.rename older target with
  | error fault => exact .refl _
  | ok moved =>
      simp only
      rcases moved.writeText_cases (Path.inside target markerName) with
        ⟨fault, fails⟩ | ⟨p, notRoot, writes⟩
      · rw [fails, fails]
        exact .refl _
      · rw [writes, writes]
        exact ⟨rfl, Or.inr ⟨moved, p, older, notRoot, rfl, rfl⟩⟩

theorem derive_clock (d : Disk) (directory : String) :
    SameOutcome now now' (derive d now directory) (derive d now' directory) := by
  unfold derive
  simp only
  split
  · exact .refl _
  · exact .refl _
  · exact .refl _
  · exact .refl _
  · exact migrate_clock d _ _

theorem resolve_clock (d : Disk) (inputs : Inputs) :
    SameOutcome now now' (resolve d now inputs) (resolve d now' inputs) := by
  unfold resolve
  split
  · exact .refl _
  · split
    · exact .refl _
    · split
      · exact .refl _
      · split
        · exact .refl _
        · exact derive_clock d _

end LayeredConfig.HlsRoot
