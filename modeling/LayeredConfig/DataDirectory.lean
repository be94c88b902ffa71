import LayeredConfig.Disk.Basic
import LayeredConfig.Failure
import LayeredConfig.Path

/-!
# The data directory

The data directory is given by any path and kept as one from the root.  A path
that does not start there is seen from the working directory, if the system tells
where that is.
-/

namespace LayeredConfig.DataDirectory

open Text

def pathOf (p : Place) : Path := { rooted := true, steps := p }

/-- The name of the working directory in messages. -/
def origin : String := "current directory"

def seen (here : Place) (raw : String) : Path :=
  Path.fold (Path.under (pathOf here) (Path.read (String.ofList (trim raw.toList))))

/-- A working directory is one that the system tells. -/
instance : Coe Place (Except Disk.Fault Place) := ⟨.ok⟩

/-- The directory that a text names.  Only a path that starts at the root is found without the
working directory. -/
def absolute (here : Except Disk.Fault Place) (raw : String) : Except Failure String :=
  let text := trim raw.toList
  if text.isEmpty then .error (Cause.invalid "dataDir" .emptyDirectory)
  else if (Path.read (String.ofList text)).rooted then .ok (seen [] raw).text
  else
    match here with
    | .ok base => .ok (seen base raw).text
    | .error fault => .error (Cause.disk origin fault)

end LayeredConfig.DataDirectory
