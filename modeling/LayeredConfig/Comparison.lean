import LayeredConfig.Change
import LayeredConfig.Loader

/-!
# Comparing two files

Two files are loaded one after the other under the same variables, and what
they come to is compared.  The first load that fails ends the comparison.
-/

namespace LayeredConfig

/-- The files to compare. -/
structure Comparison where
  old : String
  new : String
  deriving DecidableEq, Repr

namespace Comparison

/-- A load that failed, and the file it was for. -/
structure Fault where
  path : String
  cause : Failure

def Fault.message (f : Fault) : String := f.path ++ ": " ++ f.cause.message

/-- What a load of one of the files came to. -/
def outcome (path : String) (run : Run Loaded) : Except Fault Config :=
  match run.result with
  | .ok loaded => .ok loaded.config
  | .error cause => .error { path, cause }

/-- What one of the files comes to. -/
def load (r : Registry) (version : String) (env : Environment) (now : String) (d : Disk)
    (path : String) : Except Fault Config × Disk :=
  let found := Loader.load { registry := r, file := some path, version } env now d
  (outcome path found.1, found.2)

/-- What changed from the old file to the new one. -/
def between (r : Registry) (version : String) (env : Environment) (now : String) (d : Disk)
    (c : Comparison) : Except Fault Summary × Disk :=
  match load r version env now d c.old with
  | (.error f, after) => (.error f, after)
  | (.ok old, after) =>
      let (result, last) := load r version env now after c.new
      (result.map (Summary.between r old), last)

end Comparison

end LayeredConfig
