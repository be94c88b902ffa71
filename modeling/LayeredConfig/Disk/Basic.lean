import LayeredConfig.Disk.Fault

/-!
# The disk

A disk is a finite map from places to what stands there: a directory, a file or
a symbolic link.  A place is the list of names that lead to it from the root,
which is always a directory.  The map is kept in the order of the places, so a
listing is a walk through the tree with the names of each directory sorted.

Main statements: `look_put_same`, `look_put_other`, one write is seen at its
place and nowhere else.
-/

namespace LayeredConfig

/-- The names that lead from the root to a place. -/
abbrev Place := List String

/-- What a file holds: text, or bytes that are none. -/
inductive Content where
  | text (s : String)
  | binary (bytes : List Nat)
  deriving DecidableEq, Repr

/-- What stands at a place. -/
inductive Disk.Node where
  | directory
  | file (content : Content)
  | link (target : String)
  deriving DecidableEq, Repr

/-- What stands at each place, in the order of the places. -/
structure Disk where
  nodes : List (Place × Disk.Node) := []
  /-- The working directory. -/
  here : Place := []
  /-- Why the system does not tell where the working directory is, if it does not. -/
  hereFault : Option Disk.Fault := none
  deriving DecidableEq, Repr

namespace Disk

/-- The working directory as the system tells it. -/
def workingDirectory (d : Disk) : Except Fault Place :=
  match d.hereFault with
  | none => .ok d.here
  | some fault => .error fault

/-- Does the first place come in front of the second in a walk? -/
def before : Place → Place → Bool
  | [], [] => false
  | [], _ :: _ => true
  | _ :: _, [] => false
  | a :: as, b :: bs => a < b || (a == b && before as bs)

def look (d : Disk) (p : Place) : Option Node :=
  if p = [] then some .directory else (d.nodes.find? fun entry => entry.1 = p).map (·.2)

/-- A node put at a place among nodes in order. -/
def insert (p : Place) (n : Node) : List (Place × Node) → List (Place × Node)
  | [] => [(p, n)]
  | (q, m) :: rest =>
      if q = p then (p, n) :: rest
      else if before p q then (p, n) :: (q, m) :: rest
      else (q, m) :: insert p n rest

def put (d : Disk) (p : Place) (n : Node) : Disk :=
  { d with nodes := insert p n d.nodes }

/-- The disk without what stands at and below a place. -/
def remove (d : Disk) (p : Place) : Disk :=
  { d with nodes := d.nodes.filter fun entry => !p.isPrefixOf entry.1 }

def names (d : Disk) (p : Place) : List String :=
  d.nodes.filterMap fun entry =>
    if entry.1.dropLast = p ∧ entry.1 ≠ [] then entry.1.getLast? else none

/-- The disk with everything at and below one place moved to another, which replaces what stood
there.  A working directory that is moved stays the working directory. -/
def move (d : Disk) (source target : Place) : Disk :=
  let moved := d.nodes.filter fun entry => source.isPrefixOf entry.1
  let cleared := (d.remove source).remove target
  let filled := moved.foldr
    (fun entry disk => disk.put (target ++ entry.1.drop source.length) entry.2) cleared
  if source.isPrefixOf d.here then { filled with here := target ++ d.here.drop source.length }
  else filled

theorem eq_here_of_workingDirectory {d : Disk} {p : Place} (told : d.workingDirectory = .ok p) :
    p = d.here := by
  unfold workingDirectory at told
  split at told
  · exact (Except.ok.inj told).symm
  · contradiction

theorem find?_insert_same (p : Place) (n : Node) (nodes : List (Place × Node)) :
    ((insert p n nodes).find? fun entry => entry.1 = p) = some (p, n) := by
  induction nodes with
  | nil => simp [insert]
  | cons entry rest ih =>
      obtain ⟨q, m⟩ := entry
      unfold insert
      split
      · simp
      · split
        · simp
        · next differ _ => simp [differ, ih]

theorem find?_insert_other {p q : Place} (n : Node) (nodes : List (Place × Node)) (differ : q ≠ p) :
    ((insert p n nodes).find? fun entry => entry.1 = q) =
      nodes.find? fun entry => entry.1 = q := by
  induction nodes with
  | nil => simp [insert, Ne.symm differ]
  | cons entry rest ih =>
      obtain ⟨r, m⟩ := entry
      unfold insert
      split
      next same => subst same; simp [Ne.symm differ]
      next =>
        split
        · simp [Ne.symm differ]
        · by_cases here : r = q <;> simp [here, ih]

theorem look_put_same (d : Disk) {p : Place} (n : Node) (notRoot : p ≠ []) :
    (d.put p n).look p = some n := by
  simp [look, put, notRoot, find?_insert_same]

theorem look_put_other (d : Disk) {p q : Place} (n : Node) (differ : q ≠ p) :
    (d.put p n).look q = d.look q := by
  unfold look put
  split
  · rfl
  · rw [find?_insert_other n d.nodes differ]

end Disk

end LayeredConfig
