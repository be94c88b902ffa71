import LayeredConfig.Alias
import LayeredConfig.Credentials
import LayeredConfig.DataDirectory
import LayeredConfig.Deprecation
import LayeredConfig.File.Decode
import LayeredConfig.Probe
import LayeredConfig.Validation
import LayeredConfig.VariableLayer
import LayeredConfig.VariableUse

/-!
# Loading

A load puts the layers on top of each other: the defaults, the file, the
variables.  Between the layers it checks that two names of one setting agree;
behind them it derives the paths, settles the credentials, enforces the
deprecations, reports variables that nothing read, and checks the rules.  The
first stage that fails ends the load and is named in the failure.

Only the search for the root of the live stream may change the disk.
-/

namespace LayeredConfig

open Text

/-- What a load starts from. -/
structure Loader where
  registry : Registry := .builtIn
  /-- The path of the file. -/
  file : Option String := none
  /-- The path of a manifest of deprecations. -/
  manifest : Option String := none
  /-- The version that the configuration is stamped with. -/
  version : String

/-- What a load gives. -/
structure Loaded where
  config : Config
  /-- The variables that were looked up, sorted. -/
  asked : List String
  /-- The variables that nothing read, sorted. -/
  unknown : List String
  root : HlsRoot.Resolution

namespace Loader

/-- The endings of a file that can be read. -/
def extensions : List String := ["yaml", "yml"]

/-- The text of the file. -/
def readFile (d : Disk) (path : String) : Except Failure String :=
  let given := ((Path.lastName path).map Path.extension).getD ""
  let extension := String.ofList (lowerAscii given.toList)
  if extensions.contains extension then
    (d.readText path).mapError fun fault => (Cause.disk path fault : Failure)
  else .error (Cause.document path (.unsupportedFormat extension))

def openFile (d : Disk) (path : String) : Except Failure (File × Presence) := do
  let text ← readFile d path
  let presence ← (Presence.ofText text).mapError (Failure.within .presence)
  return (← File.decode path text, presence)

/-- The configuration of the defaults; every setting must have an entry. -/
def base (r : Registry) : Except Failure Config := do
  let (config, result) := r.applyDefaults .empty
  result
  r.checkCoverage
  return config

def checkFile (f : File) (p : Presence) : Reading Unit := do
  Alias.checkKeys f p
  Alias.checkKeysAndVariables f p
  Alias.checkRecording f

/-- The layer of the file, if there is one, and the keys that stand in it. -/
def mergeFile (l : Loader) (d : Disk) (below : Layered) : Reading (Layered × Option Presence) :=
  match l.file with
  | none => return (below, none)
  | some path => do
      let (file, presence) ← (Reading.ofExcept (openFile d path)).within .file
      (checkFile file presence).within .aliases
      return (← (file.merge below).within .mergeFile, some presence)

/-- All layers, and the keys that stand in the file. -/
def merge (l : Loader) (d : Disk) (listing : List String) :
    Reading (Layered × Option Presence) := do
  (Reading.ofExcept (Deprecation.checkRemoved listing)).within .removedVariables
  let defaults ← (Reading.ofExcept (base l.registry)).within .defaults
  let (layered, presence) ← l.mergeFile d { config := defaults }
  Alias.checkVariables.within .variableAliases
  return (← (VariableLayer.merge layered).within .mergeVariables, presence)

/-- The binary that probes media, and the data directory seen from the root. -/
def derive (d : Disk) (c : Config) : Except Failure Config := do
  let probing := c.set .ffprobeBin (Probe.choose (c .ffprobeBin) (c .ffmpegBin))
  return probing.set .dataDir (← DataDirectory.absolute d.workingDirectory (c .dataDir))

/-- What may name the root of the live stream. -/
def rootInputs (c : Config) : Reading HlsRoot.Inputs := do
  let primary ← Reading.ask HlsRoot.variableName
  let legacy ← Reading.ask HlsRoot.olderVariableName
  return { dataDirectory := c .dataDir, primary := primary.getD "", legacy := legacy.getD ""
           configured := c .hlsRoot }

/-- The path of the manifest: the loader's own, else that of a variable. -/
def manifestPath (l : Loader) : Reading (Option String) :=
  match l.manifest with
  | some path => return some path
  | none => Variable.nonblank VariableUse.manifestVariable

/-- What becomes of the layers once the root of the live stream is known. -/
def settle (l : Loader) (d : Disk) (listing : List String) (presence : Option Presence)
    (layered : Layered) (root : String) : Reading Config := do
  let found := layered.config.set .hlsRoot root
  let (_, config) ← (Reading.ofExcept (Credentials.settle found layered.older)).within .credentials
  let path ← l.manifestPath
  (do
    let manifest ← Reading.ofExcept (Manifest.load d path)
    manifest.check listing presence).within .deprecations
  return config.set .version l.version

/-- The report on unknown variables, and the rules. -/
def finish (l : Loader) (listing asked : List String) (c : Config) : Reading (List String) := do
  let unknown ← (VariableUse.audit l.registry listing asked (c .configStrict)).within .variableUse
  (Reading.ofExcept (Validation.check c)).within .validation
  return unknown

/-- The part of a load in front of the root of the live stream. -/
def prepare (l : Loader) (d : Disk) (listing : List String) :
    Reading (Layered × Option Presence × HlsRoot.Inputs) := do
  let (layered, presence) ← l.merge d listing
  let config ← (Reading.ofExcept (derive d layered.config)).within .paths
  return ({ layered with config }, presence, ← rootInputs config)

/-- The directories that may become the root of the live stream. -/
def candidates (l : Loader) (env : Environment) (d : Disk) : List String :=
  match ((l.prepare d env.listing).run env.get?).result with
  | .ok (_, _, inputs) => HlsRoot.candidates inputs
  | .error _ => []

/-- Loads a configuration; `now` is the time for a marker on the disk. -/
def load (l : Loader) (env : Environment) (now : String) (d : Disk) : Run Loaded × Disk :=
  let listing := env.listing
  let front := (l.prepare d listing).run env.get?
  match front.result with
  | .error f => ({ front with result := .error f }, d)
  | .ok (layered, presence, inputs) =>
      let (found, after) := HlsRoot.resolve d now inputs
      let settled := front.andThen fun _ =>
        ((found.within .hlsRoot).within .paths).andThen fun root =>
          ((do return (root, ← l.settle after listing presence layered root.root) :
            Reading (HlsRoot.Resolution × Config))).run env.get?
      let run := settled.andThen fun (root, config) =>
        ((do
          let unknown ← l.finish listing settled.asked config
          return { config, unknown, root
                   asked := settled.asked.eraseDups.mergeSort (· ≤ ·) } : Reading Loaded)).run
          env.get?
      (run, after)

end Loader

end LayeredConfig
