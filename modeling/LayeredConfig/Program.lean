import LayeredConfig.CommandLine
import LayeredConfig.Holder
import LayeredConfig.LogLevel
import LayeredConfig.Watch

/-!
# The program

A command line, the variables and the disk decide what the program prints, or
why it fails.  The log is opened first.  The file is the one that is named, else
that of a variable, else the one in the user's directory for configurations if
it is there.
-/

namespace LayeredConfig

namespace Program

def name : String := "xg2g-config"

def version : String := "0.2.1"

/-- Why the program fails. -/
inductive Fault where
  /-- The log cannot be opened. -/
  | log (fault : Disk.Fault)
  | load (cause : Failure)
  /-- A check finds the configuration wrong. -/
  | invalid (cause : Failure)
  | comparison (fault : Comparison.Fault)
  /-- There is no file to watch. -/
  | nothingToWatch

def Fault.message : Fault → String
  | .log fault => fault.message
  | .load cause => cause.message
  | .invalid cause => "config invalid: " ++ cause.message
  | .comparison fault => fault.message
  | .nothingToWatch =>
      "watch needs a config file; pass --config or set " ++ VariableUse.fileVariable

/-- What the program comes to. -/
inductive Outcome where
  | printed (text : String)
  | failed (fault : Fault)
  /-- It goes on watching, with a limit to what is logged. -/
  | watching (holder : Holder) (files : WatchPaths) (limit : LogLevel)

/-- The exit code, if the program ends. -/
def Outcome.code : Outcome → Nat
  | .failed _ => 1
  | _ => 0

/-- The exit code of a line that gives no program to run. -/
def refusalCode : CommandLine.Refusal → Nat
  | .help | .version => 0
  | _ => 2

def versionText : String := name ++ " " ++ version ++ "\n"

/-! ## Where things are -/

/-- A variable with a text that is not blank. -/
def nonblank (env : Environment) (variableName : String) : Option String :=
  (env.get? variableName).filter fun text => !Text.isBlankText text.toList

def userDirectory (env : Environment) : Option String :=
  match (env.get? "XDG_CONFIG_HOME").filter Disk.isRooted with
  | some directory => some directory
  | none =>
      ((env.get? "HOME").filter (· ≠ "")).map fun home => Path.inside home ".config"

def userFile (env : Environment) : Option String :=
  (userDirectory env).map fun directory =>
    Path.inside (Path.inside directory "xg2g") "config.yaml"

def path (line : CommandLine) (env : Environment) (d : Disk) : Option String :=
  if line.noFile then none
  else
    match line.config, nonblank env VariableUse.fileVariable with
    | some named, _ => some named
    | none, some named => some named
    | none, none => (userFile env).filter fun file => (d.status file).toBool

def manifestPath (line : CommandLine) (env : Environment) : Option String :=
  match line.deprecations with
  | some named => some named
  | none => nonblank env VariableUse.manifestVariable

/-- What a load of the configuration starts from. -/
def loader (line : CommandLine) (env : Environment) (d : Disk) : Loader :=
  { file := path line env d, manifest := line.deprecations, version }

/-- What is logged at first. -/
def firstLimit (line : CommandLine) : LogLevel := if line.verbose then .debug else .info

/-- The names of a log that is no file. -/
def streams : List String := ["0", "off", "1", "stdout", "2", "stderr"]

def openLog (line : CommandLine) (d : Disk) : Except Disk.Fault Disk :=
  if streams.contains line.log then .ok d else d.openLog line.log

def files (line : CommandLine) (env : Environment) : List String :=
  let compared := match line.command with
    | some (.compare files _) => [files.old, files.new]
    | _ => []
  let log := if streams.contains line.log then [] else [line.log]
  line.config.toList ++ (nonblank env VariableUse.fileVariable).toList ++ (userFile env).toList ++
    (manifestPath line env).toList ++ compared ++ log

/-- The directories that the program may look into, given the files. -/
def directories (line : CommandLine) (env : Environment) (d : Disk) : List String :=
  let loaders : List Loader := match line.command with
    | some (.compare files _) =>
        [{ file := some files.old, version }, { file := some files.new, version }]
    | some (.list ..) => []
    | _ => [loader line env d]
  loaders.flatMap fun l => l.candidates env d

/-- What is printed where the line asks for help or cannot be read. -/
def usage : String :=
  "Usage: " ++ name ++ " [OPTIONS] [COMMAND]\n\n" ++
  "Commands:\n" ++
  "  check              load the configuration and report on it (the default)\n" ++
  "  show [-f FORMAT]   print the configuration as yaml or json\n" ++
  "  diff OLD NEW       compare what two files come to; -f text or json\n" ++
  "  registry [--all]   list the settings; -f text or json\n" ++
  "  watch              reload on every change of the file\n\n" ++
  "Options:\n" ++
  "  -c, --config FILE          the file to load\n" ++
  "      --deprecations FILE    a manifest of deprecations\n" ++
  "      --no-file              load no file\n" ++
  "  -l, --log TARGET           0 or off, 1 or stdout, 2 or stderr, or a file\n" ++
  "  -v, --verbose              log more\n" ++
  "  -h, --help                 print this text\n" ++
  "  -V, --version              print the version\n"

/-! ## Commands -/

def report (file : Option String) (l : Loaded) : String :=
  let lines :=
    ["config file:  " ++ file.getD "(none)",
     "data dir:     " ++ l.config .dataDir,
     "hls root:     " ++ l.root.root] ++
    (if l.root.migrated then ["              migrated from the legacy v3 directory"] else []) ++
    ["env consumed: " ++ toString l.asked.length] ++
    (l.unknown.map fun key => "unknown env:  " ++ key) ++ ["OK"]
  String.join (lines.map (· ++ "\n"))

def check (l : Loader) (env : Environment) (now : String) (d : Disk) : Outcome × Disk :=
  let (run, after) := l.load env now d
  match run.result with
  | .ok loaded => (.printed (report l.file loaded), after)
  | .error cause => (.failed (.invalid cause), after)

def display (l : Loader) (format : ConfigFormat) (env : Environment) (now : String) (d : Disk) :
    Outcome × Disk :=
  let (run, after) := l.load env now d
  match run.result with
  | .ok loaded => (.printed (ConfigTree.render l.registry loaded.config format), after)
  | .error cause => (.failed (.load cause), after)

def compare (files : Comparison) (format : ListingFormat) (env : Environment) (now : String)
    (d : Disk) : Outcome × Disk :=
  match files.between .builtIn version env now d with
  | (.ok summary, after) => (.printed (summary.render format), after)
  | (.error fault, after) => (.failed (.comparison fault), after)

def watch (line : CommandLine) (l : Loader) (env : Environment) (now : String) (d : Disk) :
    Outcome × Disk :=
  match l.file with
  | none => (.failed .nothingToWatch, d)
  | some file =>
      let (run, after) := Holder.start l env now d
      match run.result with
      | .error cause => (.failed (.load cause), after)
      | .ok holder =>
          let (limit, _) := (firstLimit line).adjust (holder.current.config .logLevel)
          (.watching holder { config := file, manifest := manifestPath line env } limit, after)

def run (line : CommandLine) (env : Environment) (now : String) (d : Disk) : Outcome × Disk :=
  match openLog line d with
  | .error fault => (.failed (.log fault), d)
  | .ok d =>
      let loader := loader line env d
      match line.command with
      | none | some .check => check loader env now d
      | some (.display format) => display loader format env now d
      | some (.compare files format) => compare files format env now d
      | some (.list format all) => (.printed (Registry.builtIn.render all format), d)
      | some .watch => watch line loader env now d

end Program

end LayeredConfig
