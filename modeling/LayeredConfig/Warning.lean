/-!
# Warnings

What a load tells the operator without failing.  A warning is a cause; its text
and the name it is about are functions of the cause.
-/

namespace LayeredConfig

/-- A finding that does not stop a load. -/
inductive Warning where
  | invalidInteger (variableName : String)
  | invalidBoolean (variableName : String)
  | invalidDuration (variableName : String)
  | invalidFloat (variableName : String)
  | invalidListEntry (variableName : String)
  | invalidTunerSlots (variableName : String)
  | bothRootVariables (primary legacy : String)
  | legacyRootVariable (legacy : String)
  | legacyRootNotEmpty
  | legacyRootIsLink
  | rootMoveFailed
  | rootMarkerFailed
  | unknownVariable (name : String)
  | deprecatedKey (key replacement message : String)
  | reloadFailed
  | listenerFull
  deriving DecidableEq, Repr

namespace Warning

/-- The text of a warning. -/
def message : Warning → String
  | .invalidInteger _ => "invalid integer in environment variable, using default"
  | .invalidBoolean _ => "invalid boolean in environment variable, using default"
  | .invalidDuration _ => "invalid duration in environment variable, using default"
  | .invalidFloat _ => "invalid float in environment variable, using default"
  | .invalidListEntry _ => "ignoring invalid integer list entry"
  | .invalidTunerSlots _ => "ignoring invalid tuner slots"
  | .bothRootVariables primary legacy =>
      "both " ++ primary ++ " and " ++ legacy ++ " are set, ignoring the legacy variable"
  | .legacyRootVariable legacy => "deprecated: " ++ legacy ++ " is set"
  | .legacyRootNotEmpty =>
      "using the new HLS root but the legacy directory is not empty; " ++
        "manual cleanup may be required"
  | .legacyRootIsLink => "legacy HLS root is a symlink, skipping migration"
  | .rootMoveFailed => "HLS root migration failed, using the legacy path"
  | .rootMarkerFailed => "failed to write HLS migration marker"
  | .unknownVariable _ => "unknown environment variable ignored"
  | .deprecatedKey _ _ message => "deprecated configuration key in use | " ++ message
  | .reloadFailed => "config reload failed, keeping current config"
  | .listenerFull => "config listener channel full, skipping"

def key : Warning → Option String
  | .invalidInteger name | .invalidBoolean name | .invalidDuration name | .invalidFloat name
  | .invalidListEntry name | .invalidTunerSlots name | .unknownVariable name => some name
  | .deprecatedKey key _ _ => some key
  | _ => none

end Warning

end LayeredConfig
