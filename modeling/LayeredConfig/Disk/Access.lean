import LayeredConfig.Disk.Basic
import LayeredConfig.Text.Cut

/-!
# Reading and writing through paths

A path is followed step by step from the root or from the working directory.  A
link on the way is replaced by its target, at most `Disk.maxLinks` times.  The
last step may lead to a place where nothing stands yet.
-/

namespace LayeredConfig.Disk

open Text

/-- The links that may be followed on one path. -/
def maxLinks : Nat := 40

def maxName : Nat := 255

/-- The longest path in bytes, its end included. -/
def maxPath : Nat := 4096

/-- The steps in a text.  A slash at the end adds a step to the directory itself. -/
def stepsOf (text : String) : List String :=
  let cs := text.toList
  let steps := ((pieces '/' cs).filter (· ≠ [])).map String.ofList
  if cs.getLast? = some '/' then steps ++ ["."] else steps

def isRooted (text : String) : Bool := startsWith ['/'] text.toList

/-- Follows steps from a directory to a place.  `links` counts the links that may still be
followed; `followLast` says whether one at the end is followed too. -/
def walk (d : Disk) (followLast : Bool) (links : Nat) (start : Place) (steps : List String) :
    Except Fault Place :=
  match steps with
  | [] => .ok start
  | step :: rest =>
      if step = "." then walk d followLast links start rest
      else if step = ".." then walk d followLast links start.dropLast rest
      else if maxName < step.utf8ByteSize then .error .nameTooLong
      else
        let next := start ++ [step]
        match d.look next with
        | none => if rest.isEmpty then .ok next else .error .notFound
        | some .directory => walk d followLast links next rest
        | some (.file _) => if rest.isEmpty then .ok next else .error .notDirectory
        | some (.link target) =>
            if rest.isEmpty && !followLast then .ok next
            else if target.isEmpty then .error .notFound
            else
              match links with
              | 0 => .error .tooManyLinks
              | links + 1 =>
                  walk d followLast links (if isRooted target then [] else start)
                    (stepsOf target ++ rest)
termination_by (links, steps.length)

def resolve (d : Disk) (followLast : Bool) (path : String) : Except Fault Place :=
  if path.isEmpty then .error .notFound
  else if path.toList.contains '\x00' then .error .nulInPath
  else if maxPath ≤ path.utf8ByteSize then .error .nameTooLong
  else
    d.walk followLast maxLinks (if isRooted path then [] else d.here) (stepsOf path)

/-- What a path leads to, all links followed. -/
def status (d : Disk) (path : String) : Except Fault Node := do
  let place ← d.resolve true path
  match d.look place with
  | some n => return n
  | none => .error .notFound

/-- What stands at the end of a path; a link there is not followed. -/
def linkStatus (d : Disk) (path : String) : Except Fault Node := do
  let place ← d.resolve false path
  match d.look place with
  | some n => return n
  | none => .error .notFound

/-- The path of what a path leads to, all links followed. -/
def realPath (d : Disk) (path : String) : Except Fault String := do
  let place ← d.resolve true path
  match d.look place with
  | some _ => return "/" ++ "/".intercalate place
  | none => .error .notFound

/-- The names in the directory that a path leads to. -/
def list (d : Disk) (path : String) : Except Fault (List String) := do
  let place ← d.resolve true path
  match d.look place with
  | some .directory => return d.names place
  | some _ => .error .notDirectory
  | none => .error .notFound

def readText (d : Disk) (path : String) : Except Fault String := do
  match ← d.status path with
  | .directory => .error .isDirectory
  | .file (.text s) => return s
  | .file (.binary _) => .error .notText
  | .link _ => .error .tooManyLinks

/-- Writes a file; one that stands there is replaced. -/
def writeText (d : Disk) (path text : String) : Except Fault Disk := do
  let place ← d.resolve true path
  match d.look place with
  | some .directory => .error .isDirectory
  | _ => return d.put place (.file (.text text))

/-- A text without the slashes at its end; the root keeps one. -/
def withoutEndSlashes (path : String) : String :=
  match path.toList.reverse.dropWhile (· = '/') with
  | [] => if path.isEmpty then "" else "/"
  | reversed => String.ofList reversed.reverse

/-- Opens a file for more text; one that is not there is made.  A slash at the end asks for a
directory. -/
def openLog (d : Disk) (path : String) : Except Fault Disk := do
  let name := withoutEndSlashes path
  let place ← d.resolve (name = path) name
  if name ≠ path then .error .isDirectory
  match d.look place with
  | some .directory => .error .isDirectory
  | some _ => return d
  | none => return d.put place (.file (.text ""))

/-- Renames what stands at the end of one path to the end of another.  A directory cannot take the
place of a file or a link, and neither of these that of a directory. -/
def rename (d : Disk) (source target : String) : Except Fault Disk := do
  let source ← d.resolve false source
  let target ← d.resolve false target
  match d.look source, d.look target with
  | none, _ => .error .notFound
  | some .directory, some .directory =>
      if (d.names target).isEmpty then return d.move source target else .error .notEmpty
  | some .directory, some _ => .error .notDirectory
  | some _, some .directory => .error .isDirectory
  | some _, _ => return d.move source target

/-! ## Setting up a disk -/

/-- Every directory on the way to a place. -/
def makeDirectories (d : Disk) (p : Place) : Disk :=
  (List.range (p.length + 1)).foldl (fun disk n =>
    let part := p.take n
    if part = [] ∨ (disk.look part).isSome then disk else disk.put part .directory) d

def place (d : Disk) (p : Place) (n : Node) : Disk :=
  (d.makeDirectories p.dropLast).put p n

end LayeredConfig.Disk
