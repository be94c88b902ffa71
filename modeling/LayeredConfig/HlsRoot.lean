import LayeredConfig.Disk.Access
import LayeredConfig.Path
import LayeredConfig.Reading

/-!
# The root of the live stream

The directory for live segments is the first that is given: by the variable, by
its older name, by the configuration.  Otherwise it is `hls` in the data
directory.  An older `v3-hls` that stands there is renamed once, unless it is a
link or `hls` exists already.
-/

namespace LayeredConfig.HlsRoot

open Text

def variableName : String := "XG2G_HLS_ROOT"

def olderVariableName : String := "XG2G_V3_HLS_ROOT"

def directoryName : String := "hls"

def olderDirectoryName : String := "v3-hls"

/-- The file that tells of the renaming. -/
def markerName : String := ".xg2g_migrated_from_v3"

/-- What may name the directory; blank text names none. -/
structure Inputs where
  dataDirectory : String := ""
  /-- The value of the variable. -/
  primary : String := ""
  /-- The value of the older variable. -/
  legacy : String := ""
  configured : String := ""

/-- The directory and how it was found. -/
structure Resolution where
  root : String
  fromVariable : Bool := false
  fromOlderVariable : Bool := false
  /-- The older directory was renamed. -/
  migrated : Bool := false
  /-- The older directory is used as it stands. -/
  migrationSkipped : Bool := false
  deriving DecidableEq, Repr

/-- What a resolution shows, and the disk behind it. -/
abbrev Outcome := Run Resolution × Disk

/-- A cleaned path that is given by name.  The working directory and the root are refused. -/
def usable (raw : String) : Except Failure String :=
  let path := Path.clean raw
  if path = "." ∨ path = "/" then .error (Cause.invalid "hls.root" (.unusableRoot path))
  else .ok path

def candidates (inputs : Inputs) : List String :=
  let directory := Path.clean inputs.dataDirectory
  [Path.inside directory directoryName, Path.inside directory olderDirectoryName]

def isBlank (raw : String) : Bool := isBlankText raw.toList

/-- Is there anything in the directory but hidden files? -/
def hasVisible (d : Disk) (directory : String) : Bool :=
  match d.list directory with
  | .ok names => names.any fun name => !startsWith ['.'] name.toList
  | .error _ => false

def markerText (older now : String) : String :=
  "Migrated from: " ++ older ++ "\nDate: " ++ now ++ "\n"

/-- A resolution that leaves the disk as it is. -/
def settle (d : Disk) (result : Except Failure Resolution) (warnings : List Warning) : Outcome :=
  ({ result, warnings }, d)

/-- Renames the older directory and leaves a marker in it. -/
def migrate (d : Disk) (now older target : String) : Outcome :=
  match d.rename older target with
  | .error _ =>
      settle d (.ok { root := older, migrationSkipped := true }) [.rootMoveFailed]
  | .ok moved =>
      let done : Resolution := { root := target, migrated := true }
      match moved.writeText (Path.inside target markerName) (markerText older now) with
      | .ok marked => settle marked (.ok done) []
      | .error _ => settle moved (.ok done) [.rootMarkerFailed]

/-- The directory inside a cleaned data directory. -/
def derive (d : Disk) (now directory : String) : Outcome :=
  let target := Path.inside directory directoryName
  let older := Path.inside directory olderDirectoryName
  match d.status target, d.linkStatus older with
  | .ok .directory, olderStatus =>
      let warnings := if olderStatus.toBool && hasVisible d older then [.legacyRootNotEmpty] else []
      settle d (.ok { root := target }) warnings
  | .ok _, _ => settle d (.error (Cause.invalid "hls.root" (.rootIsFile target))) []
  | .error _, .error _ => settle d (.ok { root := target }) []
  | .error _, .ok (.link _) =>
      settle d (.ok { root := older, migrationSkipped := true }) [.legacyRootIsLink]
  | .error _, .ok _ => migrate d now older target

/-- Finds the directory; `now` is the time for the marker. -/
def resolve (d : Disk) (now : String) (inputs : Inputs) : Outcome :=
  if !isBlank inputs.primary then
    let warnings :=
      if isBlank inputs.legacy then []
      else [Warning.bothRootVariables variableName olderVariableName]
    settle d (do return { root := ← usable inputs.primary, fromVariable := true }) warnings
  else if !isBlank inputs.legacy then
    settle d (do return { root := ← usable inputs.legacy, fromVariable := true,
                          fromOlderVariable := true }) [.legacyRootVariable olderVariableName]
  else if !isBlank inputs.configured then
    settle d (do return { root := ← usable inputs.configured }) []
  else if isBlank inputs.dataDirectory then
    settle d (.error (Cause.invalid "dataDir" .emptyDirectory)) []
  else derive d now (Path.clean inputs.dataDirectory)

end LayeredConfig.HlsRoot
