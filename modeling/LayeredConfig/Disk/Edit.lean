import LayeredConfig.Disk.Basic

/-!
# Edits of a disk

What has to be done to one disk to come to another: at most one thing is
renamed inside its directory, and files are written.
-/

namespace LayeredConfig.Disk

/-- A change of what stands on a disk. -/
inductive Edit where
  | rename (source target : Place)
  | write (place : Place) (text : String)
  deriving DecidableEq, Repr

/-- The first place where something stands on one disk and nothing on the other. -/
def firstGone (before after : Disk) : Option Place :=
  (before.nodes.find? fun entry => (after.look entry.1).isNone).map (·.1)

/-- The first place beside another where something new stands. -/
def firstCome (before after : Disk) (beside : Place) : Option Place :=
  (after.nodes.find? fun entry =>
    entry.1.dropLast = beside.dropLast && (before.look entry.1).isNone).map (·.1)

/-- What was renamed, if something was. -/
def renamed (before after : Disk) : Option (Place × Place) := do
  let source ← firstGone before after
  let target ← firstCome before after source
  return (source, target)

/-- The files that differ. -/
def written (before after : Disk) : List Edit :=
  after.nodes.filterMap fun (place, node) =>
    match node with
    | .file (.text text) => if before.look place = some node then none else some (.write place text)
    | _ => none

/-- What has to be done to a disk to come to another. -/
def edits (before after : Disk) : List Edit :=
  match renamed before after with
  | some (source, target) => .rename source target :: written (before.move source target) after
  | none => written before after

end LayeredConfig.Disk
