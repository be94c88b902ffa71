import LayeredConfig.Proofs.Holder.Unchanged
import LayeredConfig.Proofs.Precedence
import LayeredConfig.Proofs.TunerSlot.Reader

/-!
# The tuner slots of a loaded configuration

The reader of the variable gives slots that there are.  The list of the file is
taken as it stands, and so is the default of the registry.  So the slots of a
loaded configuration are in range if they came from the variable, and else if
the list they came from is.

Main statement: `Loader.slots_of_load`.
-/

namespace LayeredConfig

open Reading Success

variable {values : String → Option String} {f : File}

/-! ## Where the slots come from -/

def TunerSlot.variableName : String := "XG2G_TUNER_SLOTS"

/-- The slots that the variable supplies, if it is not blank and can be read. -/
def TunerSlot.supplied (values : String → Option String) : Option (List Int) :=
  (Variable.filled values variableName).bind fun raw => (readAll raw).toOption

def File.tunerSlots (f : File) : List Int :=
  match f.value (.own .engineTunerSlots) with
  | some (.ints list) => list
  | _ => []

/-- The file supplies its list if it holds a slot. -/
theorem File.fromKey_tunerSlots (formed : f.WellFormed) :
    Value.fromKey values f (.own .engineTunerSlots) =
      if f.tunerSlots = [] then none else some (.ints f.tunerSlots) := by
  unfold Value.fromKey tunerSlots
  cases given : f.value (.own .engineTunerSlots) with
  | none => rfl
  | some v =>
      have fits : Kind.Holds .ints v := (formed _ _ given).2
      cases v with
      | ints list => cases list <;> rfl
      | _ => exact fits.elim

theorem Value.fromVariable_tunerSlots :
    Value.fromVariable values .engineTunerSlots =
      (TunerSlot.supplied values).map .ints := by
  rw [TunerSlot.supplied, Option.map_bind]
  rfl

/-- The variable counts, else the file if it holds a slot. -/
theorem Source.highest_tunerSlots (formed : f.WellFormed) :
    Source.highest values f .engineTunerSlots =
      ((TunerSlot.supplied values).map .ints).or
        (if f.tunerSlots = [] then none else some (.ints f.tunerSlots)) := by
  rw [highest_of_single formed (by decide) rfl, Value.fromVariable_tunerSlots,
    File.fromKey_tunerSlots formed]

/-- What the variable supplies is in range. -/
theorem TunerSlot.inRange_of_supplied {slots : List Int} (found : supplied values = some slots) :
    ∀ slot ∈ slots, InRange slot := by
  obtain ⟨raw, _, read⟩ := Option.bind_eq_some_iff.mp found
  cases result : readAll raw with
  | error fault =>
      rw [result] at read
      contradiction
  | ok list =>
      rw [result] at read
      obtain rfl := Option.some.inj read
      exact inRange_of_readAll result

/-! ## Loaded slots -/

namespace Loader

variable {l : Loader} {env : Environment} {now : String} {d : Disk} {loaded : Loaded}

/-- The slots are those that the variable supplies, else those of the file, if it holds any, else
the default.  They are in range if and only if they came from the variable or the list they came
from is. -/
theorem slots_of_load (success : (l.load env now d).1.result = .ok loaded) :
    ∃ defaults f, base l.registry = .ok defaults ∧ l.Opens d f ∧
      let given := TunerSlot.supplied env.get?
      let below := if f.tunerSlots = [] then defaults .engineTunerSlots else f.tunerSlots
      loaded.config .engineTunerSlots = given.getD below ∧
        ((∀ slot ∈ loaded.config .engineTunerSlots, TunerSlot.InRange slot) ↔
          given ≠ none ∨ ∀ slot ∈ below, TunerSlot.InRange slot) := by
  obtain ⟨defaults, f, started, opened, formed, leaves⟩ := exists_highest_of_load success
  refine ⟨defaults, f, started, opened, ?_⟩
  intro given below
  have shown : loaded.config .engineTunerSlots = given.getD below := by
    have ranked := leaves .engineTunerSlots (by decide) (by decide) (Or.inl (by decide))
    rw [Source.highest_tunerSlots formed] at ranked
    refine Config.eq_of_leaf (ranked.trans ?_)
    show ((given.map Value.ints).or _).getD _ = Value.ints (given.getD below)
    cases given with
    | some slots => rfl
    | none =>
        show (if f.tunerSlots = [] then none else some (Value.ints f.tunerSlots)).getD _ =
          Value.ints (if f.tunerSlots = [] then defaults .engineTunerSlots else f.tunerSlots)
        split <;> rfl
  refine ⟨shown, ?_⟩
  rw [shown]
  cases source : given with
  | some slots => exact iff_of_true (TunerSlot.inRange_of_supplied source) (Or.inl nofun)
  | none => exact (or_iff_right fun set => set rfl).symm

/-- A variable with a range, and one that reaches beyond the last slot and so supplies nothing. -/
theorem slots_of_load_ranges :
    (∃ loaded, (load { version := "t" }
      ⟨[("XG2G_HLS_ROOT", "/hls"), ("XG2G_TUNER_SLOTS", "0-2, 5")]⟩
      "now" {}).1.result = .ok loaded ∧ loaded.config .engineTunerSlots = [0, 1, 2, 5] ∧
        ∀ slot ∈ loaded.config .engineTunerSlots, TunerSlot.InRange slot) ∧
    ∃ loaded, (load { version := "t" }
      ⟨[("XG2G_HLS_ROOT", "/hls"), ("XG2G_TUNER_SLOTS", "0-9223372036854775806")]⟩
      "now" {}).1.result = .ok loaded ∧ loaded.config .engineTunerSlots = [] := by
  constructor
  · obtain ⟨loaded, success⟩ := exists_ok_of_toBool
      (load { version := "t" } ⟨[("XG2G_HLS_ROOT", "/hls"), ("XG2G_TUNER_SLOTS", "0-2, 5")]⟩ "now"
        {}).1.result (by decide +kernel)
    obtain ⟨_, _, _, _, shown, sound⟩ := slots_of_load success
    have read : TunerSlot.supplied (Environment.get?
        ⟨[("XG2G_HLS_ROOT", "/hls"), ("XG2G_TUNER_SLOTS", "0-2, 5")]⟩) = some [0, 1, 2, 5] := by
      decide +kernel
    rw [read] at shown sound
    exact ⟨loaded, success, shown, sound.mpr (Or.inl nofun)⟩
  · obtain ⟨loaded, success⟩ := exists_ok_of_toBool
      (load { version := "t" }
        ⟨[("XG2G_HLS_ROOT", "/hls"), ("XG2G_TUNER_SLOTS", "0-9223372036854775806")]⟩ "now"
        {}).1.result (by decide +kernel)
    obtain ⟨defaults, f, started, opened, shown, _⟩ := slots_of_load success
    have read : TunerSlot.supplied (Environment.get?
        ⟨[("XG2G_HLS_ROOT", "/hls"), ("XG2G_TUNER_SLOTS", "0-9223372036854775806")]⟩) = none := by
      decide +kernel
    obtain rfl : f = .empty := opened
    rw [base_builtIn] at started
    cases started
    rw [read] at shown
    exact ⟨loaded, success, shown⟩

/-- A file may name a slot beyond the last one. -/
theorem exists_load_slot_beyond :
    let text := "engine:\n  tunerSlots: [256]\n"
    let load := Loader.load { version := "t", file := some "/c.yaml" } ⟨[("XG2G_HLS_ROOT", "/hls")]⟩
      "now" { nodes := [(["c.yaml"], .file (.text text))] }
    ∃ loaded, load.1.result = .ok loaded ∧ loaded.config .engineTunerSlots = [256] ∧
      ¬∀ slot ∈ loaded.config .engineTunerSlots, TunerSlot.InRange slot := by
  obtain ⟨loaded, success, facts⟩ := exists_ok_of_any
    (load { version := "t", file := some "/c.yaml" } ⟨[("XG2G_HLS_ROOT", "/hls")]⟩ "now"
      { nodes := [(["c.yaml"], .file (.text "engine:\n  tunerSlots: [256]\n"))] }).1.result
    (fun loaded => decide (loaded.config .engineTunerSlots = [256]))
    (by
      unfold load prepare merge mergeFile openFile readFile
      simp only [Holder.readText_only]
      decide +kernel)
  have beyond := of_decide_eq_true facts
  refine ⟨loaded, success, beyond, ?_⟩
  rw [beyond]
  decide

end Loader

end LayeredConfig
