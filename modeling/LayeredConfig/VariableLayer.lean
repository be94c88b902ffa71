import LayeredConfig.File.Merge
import LayeredConfig.Variable

/-!
# The layer of the variables

Every setting with a variable is read from it; a variable that is blank or has
no value of the setting's kind leaves the value below it.  Where a setting has
two variables the older one is applied first, so the other one counts.
-/

namespace LayeredConfig

open Text

namespace Setting

/-- Is the setting read here?  The root of the live stream is settled with the paths. -/
def isReadFromVariables (s : Setting) : Bool := s ≠ .hlsRoot

end Setting

namespace VariableLayer

def read (s : Setting) (name : String) : Reading (Option Value) :=
  let typed {α : Type} (wrap : α → Value) (r : Reading (Option α)) : Reading (Option Value) := do
    return (← r).map wrap
  match s.kind with
  | .text | .optionalText => typed .text (Variable.nonblank name)
  | .int => typed .int (Variable.int name)
  | .bool => typed .bool (Variable.bool name)
  | .float => typed .float (Variable.float name)
  | .duration => typed .duration (Variable.duration name)
  | .texts => typed .texts (Variable.texts name)
  | .ints =>
      if s = .engineTunerSlots then typed .ints (Variable.tunerSlots name)
      else typed .ints (Variable.ints name)
  | .tokens => typed .tokens (Variable.tokens name)
  | .table | .mappings | .libraryRoots => return none

def readOlder (s : Setting) (name : String) : Reading (Option Value) :=
  if s.olderCountsMillis then do return (← Variable.millis name).map Value.duration
  else read s name

/-- Puts a value in its place.  Older credentials are kept apart, and an address for the metrics
switches them on. -/
def place (l : Layered) (k : FileKey) (v : Value) : Layered :=
  let placed := File.place l k v
  if k.setting = .metricsListenAddress then
    { placed with config := placed.config.set .metricsEnabled true }
  else placed

/-- The credentials of the receiver are the only settings whose two variables differ in meaning. -/
def olderKey (s : Setting) : FileKey :=
  if s = .receiverUsername ∨ s = .receiverPassword then .older s else .own s

/-- Applies the variables of one setting, the older one first. -/
def applySetting (l : Layered) (s : Setting) : Reading Layered := do
  if s.isReadFromVariables then
    let older ← match s.row.legacy with
      | some name => readOlder s name
      | none => pure none
    let l := match older with
      | some v => place l (olderKey s) v
      | none => l
    let own ← match s.row.primary with
      | some name => read s name
      | none => pure none
    return match own with
      | some v => place l (.own s) v
      | none => l
  else return l

/-- The credential mode in its usual spelling. -/
def tidy (l : Layered) : Layered :=
  let mode := String.ofList (lowerAscii (trim (l.config .receiverAuthMode).toList))
  { l with config := l.config.set .receiverAuthMode mode }

def merge (l : Layered) : Reading Layered := do
  return tidy (← Setting.all.foldlM applySetting l)

end VariableLayer

end LayeredConfig
