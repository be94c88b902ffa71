import LayeredConfig.References
import LayeredConfig.TunerSlot

/-!
# Values of variables

Readers for the value of one variable.  A variable that is missing or blank
supplies nothing; one whose text has no value of the wanted kind supplies
nothing either and warns.
-/

namespace LayeredConfig.Variable

open Text Number

/-- The value of a variable that is not blank. -/
def nonblank (name : String) : Reading (Option String) := do
  let value ← Reading.ask name
  return value.filter fun v => !isBlankText v.toList

/-- The value a text stands for, and whether to warn where it stands for none. -/
def parsed {α : Type} (name : String) (parse : String → Option α) (warning : String → Warning) :
    Reading (Option α) := do
  match ← nonblank name with
  | none => return none
  | some raw =>
      match parse raw with
      | some a => return some a
      | none => do
          Reading.caution (warning name)
          return none

/-- A whole number in text with blanks around it. -/
def parseInt (raw : String) : Option Int :=
  readInt64 (trim raw.toList)

/-- `true`, `1`, `yes`, `false`, `0` or `no`, in any case. -/
def parseBool (raw : String) : Option Bool :=
  match String.ofList (lowerAscii (trim raw.toList)) with
  | "true" | "1" | "yes" => some true
  | "false" | "0" | "no" => some false
  | _ => none

def parseDuration (raw : String) : Option Duration :=
  (Duration.read raw).toOption

def parseFloat (raw : String) : Option Binary64 :=
  (Binary64.read (trim raw.toList)).filter Binary64.isFinite

def int (name : String) : Reading (Option Int) :=
  parsed name parseInt .invalidInteger

def bool (name : String) : Reading (Option Bool) :=
  parsed name parseBool .invalidBoolean

def duration (name : String) : Reading (Option Duration) :=
  parsed name parseDuration .invalidDuration

def float (name : String) : Reading (Option Binary64) :=
  parsed name parseFloat .invalidFloat

def millis (name : String) : Reading (Option Duration) := do
  let ms ← int name
  return (ms.filter (0 < ·)).map fun n => Duration.ofMillis n.toNat

def texts (name : String) : Reading (Option (List String)) := do
  let raw ← nonblank name
  return raw.map commaList

/-- The whole numbers among the segments; each other segment warns. -/
def keepInts (name : String) : List (List Char) → Reading (List Int)
  | [] => .done []
  | segment :: rest =>
      match readInt64 segment with
      | some i => do return i :: (← keepInts name rest)
      | none => do
          Reading.caution (.invalidListEntry name)
          keepInts name rest

/-- Whole numbers in a comma-joined list. -/
def ints (name : String) : Reading (Option (List Int)) := do
  match ← nonblank name with
  | none => return none
  | some raw => return some (← keepInts name (segments ',' raw.toList))

def tunerSlots (name : String) : Reading (Option (List Int)) :=
  parsed name (fun raw => (TunerSlot.readAll raw).toOption) .invalidTunerSlots

/-- A list of scoped tokens; a bad one fails. -/
def tokens (name : String) : Reading (Option (List ScopedToken)) := do
  match ← nonblank name with
  | none => return none
  | some raw =>
      match ScopedToken.readAll raw with
      | .ok list => return some list
      | .error fault => Reading.refuse (.invalid name (.tokens fault))

end LayeredConfig.Variable
