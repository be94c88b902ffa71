import LayeredConfig.Failure
import LayeredConfig.Net.Url

/-!
# Rules

A rule is a demand on one value.  A rule that does not hold gives a violation,
which names a key and says what was found there.  All violations of a list of
rules make one failure.
-/

namespace LayeredConfig

open Text Net

/-- A demand on one value. -/
inductive Rule where
  | range (field : String) (value low high : Int)
  | port (field : String) (value : Int)
  | positive (field : String) (value : Int)
  | oneOf (field value : String) (allowed : List String)
  | service (field value : String) (schemes : List String)
  | block (field value : String)
  /-- Any other condition, with what to say if it does not hold. -/
  | demand (field message : String) (condition : Bool)
  deriving DecidableEq, Repr

namespace Rule

/-- What is wrong with the URL of a service, if anything. -/
def serviceFault (value : String) (schemes : List String) : Option String :=
  if isBlankText value.toList then some "URL cannot be empty"
  else
    match Url.read (String.ofList (trim value.toList)) with
    | .error fault => some ("invalid URL: " ++ fault.message)
    | .ok url =>
        if url.host.all String.isEmpty then some "URL must have a host"
        else if schemes.contains url.scheme then none
        else
          some ("unsupported URL scheme " ++ quoted url.scheme ++ " (allowed: " ++
            quotedList schemes ++ ")")

/-- What is wrong with a value, if anything. -/
def fault? : Rule → Option String
  | range _ value low high =>
      if low ≤ value ∧ value ≤ high then none
      else some ("value must be between " ++ toString low ++ " and " ++ toString high ++ ", got " ++
        toString value)
  | port _ value =>
      if 1 ≤ value ∧ value ≤ 65535 then none
      else some ("port must be between 1 and 65535, got " ++ toString value)
  | positive _ value =>
      if 0 < value then none else some ("value must be positive, got " ++ toString value)
  | oneOf _ value allowed =>
      if allowed.contains value then none
      else some ("value must be one of " ++ quotedList allowed ++ ", got " ++ quoted value)
  | service _ value schemes => serviceFault value schemes
  | block _ value =>
      match Block.read value with
      | .ok _ => none
      | .error fault => some (quoted value ++ ": " ++ fault.message)
  | demand _ message condition => if condition then none else some message

/-- The key a rule is about. -/
def field : Rule → String
  | range field .. | port field _ | positive field _ | oneOf field .. | service field ..
  | block field _ | demand field .. => field

/-- The violation of a rule that does not hold. -/
def violation? (r : Rule) : Option Violation :=
  r.fault?.map fun message => { field := r.field, message }

def violations (rules : List Rule) : List Violation := rules.filterMap violation?

/-- Fails with all violations, if there are any. -/
def refuse : List Violation → Except Failure Unit
  | [] => .ok ()
  | first :: others => .error (Cause.violations first others)

def checkAll (rules : List Rule) : Except Failure Unit := refuse (violations rules)

end Rule

end LayeredConfig
