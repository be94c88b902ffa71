import LayeredConfig.Credentials
import LayeredConfig.File.Basic
import LayeredConfig.References

/-!
# The layer of the file

The values that a file gives to its keys are put into a configuration one by
one, the older names of the receiver block in front of the others.  A value
replaces the one below it, with three exceptions: an empty list leaves the list
below it, recording roots are added name by name, and the version of the file
itself sets nothing.  References to variables are replaced in addresses,
credentials and paths; durations are read here, and a bad one is refused.
-/

namespace LayeredConfig

open Text

/-- A configuration on its way through the layers, and the credentials under the older names. -/
structure Layered where
  config : Config
  older : Credentials := {}

namespace Setting

/-- Are references to variables replaced in the file's text? -/
def isExpanded : Setting → Bool
  | .dataDir | .piconBase | .receiverBaseUrl | .receiverUsername | .receiverPassword | .apiToken
  | .apiListenAddress | .metricsListenAddress | .hlsRoot | .ffmpegBin | .ffprobeBin | .storePath
  | .tlsCert | .tlsKey | .libraryDbPath => true
  | _ => false

end Setting

namespace File

def order : List FileKey :=
  let late : List Setting :=
    [.recordingStableWindow, .hlsDvrWindow, .ffmpegKillTimeout, .engineIdleTimeout,
     .verificationInterval, .vodStallTimeout, .vodCacheTtl]
  Setting.receiverAliases.map .older ++
    (Setting.all.filter fun s => s ≠ .version ∧ s ∉ late).map .own ++ late.map .own

/-- A library root with the references in its path replaced. -/
def expandRoot (root : LibraryRoot) : Reading LibraryRoot := do
  return { root with path := ← expand root.path }

/-- What a value from the file makes of the one below it; `none` leaves that one. -/
def resolve (k : FileKey) (below given : Value) : Reading (Option Value) :=
  let s := k.setting
  match s.kind, given with
  | .duration, .text raw =>
      match Duration.read raw with
      | .ok d => return some (.duration d)
      | .error fault => Reading.refuse (.invalid k.path (.duration fault))
  | _, .text raw =>
      if s = .receiverAuthMode then
        return some (.text (String.ofList (lowerAscii (trim raw.toList))))
      else if s.isExpanded then return some (.text (← expand raw))
      else return some given
  | _, .texts list =>
      if list.isEmpty then return none
      else if s.isCommaList then return some (.text (",".intercalate list))
      else return some given
  | _, .ints list => return if list.isEmpty then none else some given
  | _, .tokens list => return if list.isEmpty then none else some given
  | _, .mappings list => return if list.isEmpty then none else some given
  | _, .libraryRoots list =>
      if list.isEmpty then return none
      else return some (.libraryRoots (← list.mapM expandRoot))
  | _, .table more =>
      match below with
      | .table table => return some (.table (more.foldl (fun t e => Table.put e.1 e.2 t) table))
      | _ => return some given
  | _, _ => return some given

/-- Puts a resolved value in its place: older credentials are kept apart. -/
def place (l : Layered) (k : FileKey) (v : Value) : Layered :=
  match k, v with
  | .older .receiverUsername, .text name => { l with older.username := name }
  | .older .receiverPassword, .text word => { l with older.password := word }
  | _, _ => { l with config := l.config.put k.setting v }

def applyKey (f : File) (l : Layered) (k : FileKey) : Reading Layered :=
  match f.value k with
  | none => return l
  | some given => do
      match ← resolve k (l.config.leaf k.setting) given with
      | some v => return place l k v
      | none => return l

def merge (f : File) (l : Layered) : Reading Layered :=
  order.foldlM f.applyKey l

end File

end LayeredConfig
