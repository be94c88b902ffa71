import LayeredConfig.Json.Value
import LayeredConfig.Registry.Basic

/-!
# What changed between two configurations

Two configurations are compared setting by setting.  The two comma-joined lists
are compared as sets of names.  The summary grows change by change, and one that
needs a restart makes the whole summary need one.

Main statement: `Summary.changes_between`.
-/

namespace LayeredConfig

open Text

/-- A setting that differs. -/
structure Change where
  setting : Setting
  path : String
  live : Bool
  deriving DecidableEq, Repr

/-- The settings that differ, in the order of listings. -/
structure Summary where
  changes : List Change := []
  restartRequired : Bool := false
  restartRequired_iff : restartRequired = true ↔ ∃ c ∈ changes, c.live = false := by simp
  deriving DecidableEq, Repr

namespace Summary

def isEmpty (s : Summary) : Bool := s.changes.isEmpty

def paths (s : Summary) : List String := s.changes.map Change.path

def add (s : Summary) (c : Change) : Summary where
  changes := s.changes ++ [c]
  restartRequired := s.restartRequired || !c.live
  restartRequired_iff := by simp [s.restartRequired_iff, or_and_right, exists_or]

def sortedList (text : String) : String :=
  ",".intercalate ((commaList text).mergeSort (· ≤ ·))

/-- A value as it is compared. -/
def normal (s : Setting) (v : Value) : Value :=
  match v with
  | .text t => if s.isCommaList then .text (sortedList t) else v
  | _ => v

def differs (old new : Config) (s : Setting) : Bool :=
  !(normal s (old.leaf s)).equal (normal s (new.leaf s))

def changeOf (r : Registry) (s : Setting) : Change :=
  { setting := s, path := r.shownPath s, live := r.isLive s }

def compare (r : Registry) (old new : Config) (summary : Summary) (s : Setting) : Summary :=
  if differs old new s then summary.add (changeOf r s) else summary

/-- What changed from one configuration to another. -/
def between (r : Registry) (old new : Config) : Summary :=
  Setting.all.foldl (compare r old new) {}

theorem changes_foldl_compare (r : Registry) (old new : Config) (settings : List Setting)
    (start : Summary) : (settings.foldl (compare r old new) start).changes =
      start.changes ++ (settings.filter (differs old new)).map (changeOf r) := by
  induction settings generalizing start with
  | nil => simp
  | cons s rest ih =>
      rw [List.foldl_cons, ih, compare]
      by_cases differ : differs old new s = true <;> simp [differ, add]

/-- Each setting that differs gives one change. -/
theorem changes_between (r : Registry) (old new : Config) : (between r old new).changes =
    (Setting.all.filter (differs old new)).map (changeOf r) := by
  rw [between, changes_foldl_compare, List.nil_append]

/-! ## Text -/

/-- A text with blanks behind it up to a width. -/
def padded (width : Nat) (text : String) : String :=
  text ++ String.ofList (List.replicate (width - text.length) ' ')

/-- One line per change and a line of totals. -/
def text (s : Summary) : String :=
  if s.isEmpty then "No changes.\n"
  else
    let line (c : Change) : String :=
      "  " ++ padded 40 c.path ++ " " ++ (if c.live then "hot" else "restart") ++ "\n"
    let cold := (s.changes.filter fun c => !c.live).length
    String.join (s.changes.map line) ++ "\n" ++ toString s.changes.length ++
      " field(s) changed, " ++ toString cold ++ " need a restart." ++
      (if s.restartRequired then " Restart required.\n" else " Reload is sufficient.\n")

def json (s : Summary) : Json :=
  .object
    [("changed", .list (s.changes.map fun c =>
        .object [("path", .text c.path), ("hot_reloadable", .bool c.live)])),
     ("restart_required", .bool s.restartRequired)]

end Summary

end LayeredConfig
