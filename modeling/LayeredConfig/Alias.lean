import LayeredConfig.File.Basic
import LayeredConfig.Presence
import LayeredConfig.References
import LayeredConfig.Variable

/-!
# Two names of one setting

A receiver setting can be given four ways: by either of two keys in the file and
by either of two variables.  Any two of them that are given must agree.  The
recording settings must agree with their flat variables in the same way.

All comparisons are made on trimmed text with its references replaced; two
durations agree if they are equally long, however they are spelled.
-/

namespace LayeredConfig.Alias

open Text Number

/-- A text as it is compared. -/
def normal (text : String) : Reading String := do
  return String.ofList (trim (← expand text).toList)

def sameText (a b : String) : Reading Bool := do
  let a ← normal a
  let b ← normal b
  return a == b

/-- Do two texts of durations agree? -/
def sameDurationText (a b : String) : Reading Bool := do
  let a ← normal a
  let b ← normal b
  if a.isEmpty && b.isEmpty then return true
  else
    match Duration.read a, Duration.read b with
    | .ok x, .ok y => return x == y
    | _, _ => return a == b

/-- Does a text agree with a duration?  An empty one stands for no time at all; one that is no
duration is refused later, when it is merged. -/
def sameDuration (text : String) (d : Duration) : Reading Bool := do
  let text ← normal text
  if text.isEmpty then return d == .zero
  else
    match Duration.read text with
    | .ok x => return x == d
    | .error _ => return true

/-- The text of a key; a key without a value has the empty text. -/
def textOf : Option Value → String
  | some (.text t) => t
  | _ => ""

def sameInFile (s : Setting) (a b : Option Value) : Reading Bool :=
  match s.kind with
  | .text => sameText (textOf a) (textOf b)
  | .duration => sameDurationText (textOf a) (textOf b)
  | _ => return a == b

def sameAsVariable (inFile : Option Value) (given : Value) : Reading Bool :=
  match given with
  | .text v => sameText (textOf inFile) v
  | .duration d => sameDuration (textOf inFile) d
  | other => return inFile == some other

def sameVariables (a b : Value) : Reading Bool :=
  match a, b with
  | .text a, .text b => sameText a b
  | a, b => return a == b

/-- The value of a variable for a comparison.  One that is blank or has no value of the setting's
kind counts as missing, without a warning. -/
def valueIn (s : Setting) (name : String) (millis : Bool) : Reading (Option Value) := do
  match ← Variable.nonblank name with
  | none => return none
  | some raw =>
      let text := trim raw.toList
      match s.kind with
      | .text => return some (.text (String.ofList text))
      | .duration =>
          if millis then return (readBits 64 text).map fun n => .duration (.ofMillis n)
          else return (Duration.read raw).toOption.map .duration
      | .int => return (readInt64 text).map .int
      | .bool => return (Variable.parseBool raw).map .bool
      | _ => return none

/-- Fails with the two names unless they agree. -/
def demand (agree : Bool) (family : AliasFamily) (older newer : String) : Reading Unit :=
  if agree then .done () else Reading.refuse (.aliasConflict family older newer)

def olderVariable (s : Setting) : String := s.row.legacy.getD ""

def newerVariable (s : Setting) : String := s.row.primary.getD ""

/-! ## The checks -/

/-- The two keys of one setting. -/
def checkKeysOf (f : File) (p : Presence) (s : Setting) : Reading Unit := do
  if p.hasLegacy s.lastStep && p.hasCanonical s.lastStep then
    let agree ← sameInFile s (f.value (.older s)) (f.value (.own s))
    demand agree .receiver (FileKey.older s).path (FileKey.own s).path
  else return ()

/-- The keys of the file against each other, if both blocks stand in it. -/
def checkKeys (f : File) (p : Presence) : Reading Unit :=
  if f.hasBlock [FileKey.olderBlock] && f.hasBlock [FileKey.receiverBlock] then
    Setting.receiverAliases.forM (checkKeysOf f p)
  else return ()

/-- A key that is on record against the variable of the other name. -/
def checkKeyOf (seen : Bool) (s : Setting) (inFile : Option Value) (name : String) (millis : Bool)
    (older newer : String) : Reading Unit := do
  if seen then
    match ← valueIn s name millis with
    | some given =>
        let agree ← sameAsVariable inFile given
        demand agree .receiver older newer
    | none => return ()

/-- Each key of one setting against the variable of the other name. -/
def checkKeysAndVariablesOf (f : File) (p : Presence) (s : Setting) : Reading Unit := do
  checkKeyOf (f.hasBlock [FileKey.olderBlock] && p.hasLegacy s.lastStep) s (f.value (.older s))
    (newerVariable s) false (FileKey.older s).path (newerVariable s)
  checkKeyOf (f.hasBlock [FileKey.receiverBlock] && p.hasCanonical s.lastStep) s (f.value (.own s))
    (olderVariable s) s.olderCountsMillis (olderVariable s) (FileKey.own s).path

/-- The keys of the file against the variables of the other name. -/
def checkKeysAndVariables (f : File) (p : Presence) : Reading Unit :=
  Setting.receiverAliases.forM (checkKeysAndVariablesOf f p)

/-- The two variables of one setting. -/
def checkVariablesOf (s : Setting) : Reading Unit := do
  match ← valueIn s (olderVariable s) s.olderCountsMillis with
  | none => return ()
  | some older =>
      match ← valueIn s (newerVariable s) false with
      | none => return ()
      | some newer =>
          demand (← sameVariables older newer) .receiver (olderVariable s) (newerVariable s)

def checkVariables : Reading Unit :=
  Setting.receiverAliases.forM checkVariablesOf

def recordingSettings : List Setting :=
  [.vodProbeSize, .vodAnalyzeDuration, .vodStallTimeout, .vodMaxConcurrent, .vodCacheTtl,
   .vodCacheMaxEntries]

/-- One recording setting against its flat variable. -/
def checkRecordingOf (f : File) (s : Setting) : Reading Unit := do
  match f.value (.own s) with
  | none => return ()
  | some inFile =>
      match ← valueIn s (olderVariable s) false with
      | none => return ()
      | some given =>
          demand (← sameAsVariable (some inFile) given) .vod (olderVariable s) (FileKey.own s).path

/-- The recording settings against their flat variables, if their block stands in the file. -/
def checkRecording (f : File) : Reading Unit :=
  if f.hasBlock [FileKey.recordingBlock] then recordingSettings.forM (checkRecordingOf f)
  else return ()

end LayeredConfig.Alias
