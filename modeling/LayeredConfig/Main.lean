import LayeredConfig.Disk.Edit
import LayeredConfig.Program
import Std.Time.DateTime
import Std.Time.Format

/-!
# The command line program

Reads the arguments, the variables and the part of the disk that the command
line may touch, lets the program run on them, and carries out what it comes to:
the edits of the disk, the text to print, and the exit code.
-/

namespace LayeredConfig.Shell

open Text

def readEnvironment : IO Environment := do
  let handle ← IO.FS.Handle.mk "/proc/self/environ" .read
  let text := (String.fromUTF8? (← handle.readBinToEnd)).getD ""
  let bindings := (pieces '\x00' text.toList).filterMap (cutOnce '=')
  return Environment.ofList (bindings.map fun (name, value) =>
    (String.ofList name, String.ofList value))

/-- The time for a marker on the disk. -/
def readTime : IO String := do
  let now ← Std.Time.Timestamp.now
  return (Std.Time.DateTime.ofTimestampWithZone now .GMT).format "uuuu-MM-dd'T'HH:mm:ss'Z'"

def pathOf (place : Place) : String := "/" ++ "/".intercalate place

def readContent (path : String) : IO Content := do
  let bytes ← IO.FS.readBinFile path
  return match String.fromUTF8? bytes with
    | some text => .text text
    | none => .binary (bytes.toList.map UInt8.toNat)

/-- What stands at a place.  A link is seen as one to where it leads in the end. -/
def readNode (place : Place) (withContent : Bool) : IO (Option Disk.Node) := do
  let path := pathOf place
  try
    match (← ((← IO.FS.realPath "/") / path).symlinkMetadata).type with
    | .dir => return some .directory
    | .symlink =>
        let target ← try pure (← IO.FS.realPath path).toString catch _ => pure ""
        return some (.link target)
    | _ => return some (.file (← if withContent then readContent path else pure (.text "")))
  catch _ => return none

/-- Adds to a disk what stands on the way along some steps and at their end. -/
partial def survey (withContent : Bool) (start : Place) (steps : List String) (d : Disk) :
    IO Disk := do
  match steps with
  | [] => return d
  | "." :: rest => survey withContent start rest d
  | ".." :: rest => survey withContent start.dropLast rest d
  | step :: rest =>
      let place := start ++ [step]
      match ← readNode place withContent with
      | none => return d
      | some (.link target) =>
          let seen := d.put place (.link target)
          if target.isEmpty then return seen
          else survey withContent [] (Disk.stepsOf target ++ rest) seen
      | some node => survey withContent place rest (d.put place node)

def surveyFile (d : Disk) (path : String) : IO Disk :=
  survey true (if Disk.isRooted path then [] else d.here) (Disk.stepsOf path) d

/-- Adds to a disk what stands at a path and directly below it, without what files hold. -/
def surveyDirectory (d : Disk) (path : String) : IO Disk := do
  let start := if Disk.isRooted path then [] else d.here
  let seen ← survey false start (Disk.stepsOf path) d
  match seen.resolve true path with
  | .ok place =>
      if seen.look place = some .directory then
        let entries ← ((← IO.FS.realPath "/") / pathOf place).readDir
        entries.toList.foldlM (fun disk entry => do
          match ← readNode (place ++ [entry.fileName]) false with
          | some node => return disk.put (place ++ [entry.fileName]) node
          | none => return disk) seen
      else return seen
  | .error _ => return seen

/-- The part of the disk that a command line may touch. -/
def readDisk (line : CommandLine) (env : Environment) : IO Disk := do
  let here ← IO.FS.realPath "."
  let start : Disk := { here := Disk.stepsOf here.toString }
  let withFiles ← (Program.files line env).foldlM surveyFile start
  (Program.directories line env withFiles).foldlM surveyDirectory withFiles

def applyEdit : Disk.Edit → IO Unit
  | .rename source target => IO.FS.rename (pathOf source) (pathOf target)
  | .write place text => IO.FS.writeFile (pathOf place) text

/-- When a file was last changed. -/
def changeTime (path : String) : IO (Option (Int × UInt32)) := do
  try
    let time := (← ((← IO.FS.realPath ".") / path).metadata).modified
    return some (time.sec, time.nsec)
  catch _ => return none

/-- Reloads on every change of the watched files. -/
partial def watch (line : CommandLine) (watched : WatchPaths) (holder : Holder)
    (seen : List (Option (Int × UInt32))) : IO Unit := do
  IO.sleep 500
  let paths := watched.config :: watched.manifest.toList
  let times ← paths.mapM changeTime
  let changed := ((paths.zip (times.zip seen)).filter fun p => p.2.1 != p.2.2).map (·.1)
  if (watched.classify changed).any WatchEvent.asksReload then
    let env ← readEnvironment
    let disk ← readDisk line env
    let (_, next, after) := holder.reload env (← readTime) disk
    (disk.edits after).forM applyEdit
    watch line watched next times
  else watch line watched holder times

/-- Runs a command line and gives the exit code. -/
def run (line : CommandLine) : IO UInt32 := do
  let env ← readEnvironment
  let disk ← readDisk line env
  let (outcome, after) := Program.run line env (← readTime) disk
  (disk.edits after).forM applyEdit
  match outcome with
  | .printed text => IO.print text
  | .failed fault => IO.eprintln ("Error: " ++ fault.message)
  | .watching holder files _ =>
      let watched := files.settle after
      let times ← (watched.config :: watched.manifest.toList).mapM changeTime
      watch line watched holder times
  return outcome.code.toUInt32

def refuse (refusal : CommandLine.Refusal) : IO UInt32 := do
  match refusal with
  | .version => IO.print Program.versionText
  | .help => IO.print Program.usage
  | _ => IO.eprint Program.usage
  return (Program.refusalCode refusal).toUInt32

end LayeredConfig.Shell

/-- The entry of the program. -/
def main (arguments : List String) : IO UInt32 :=
  match LayeredConfig.CommandLine.read arguments with
  | .ok line => LayeredConfig.Shell.run line
  | .error refusal => LayeredConfig.Shell.refuse refusal
