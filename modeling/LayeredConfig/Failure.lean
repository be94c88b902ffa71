import LayeredConfig.Config
import LayeredConfig.Disk.Fault
import LayeredConfig.Token
import LayeredConfig.Yaml.Fault

/-!
# Failures

A failure is a cause with the stages it passed on the way out, the outermost
first.  The class of a failure, its text and the key it is about are functions
of these.
-/

namespace LayeredConfig

open Text

inductive FailureClass where
  | registry
  | aliasConflict
  | strictDecode
  | deprecated
  | legacyVariable
  | sensitiveUnknown
  | invalidValue
  | validation
  | disk
  deriving DecidableEq, Repr

def FailureClass.name : FailureClass → String
  | .registry => "REGISTRY"
  | .aliasConflict => "ALIAS_CONFLICT"
  | .strictDecode => "STRICT_DECODE"
  | .deprecated => "DEPRECATED"
  | .legacyVariable => "LEGACY_ENV"
  | .sensitiveUnknown => "SECURITY_SENSITIVE_UNKNOWN_KEY"
  | .invalidValue => "INVALID_VALUE"
  | .validation => "VALIDATION"
  | .disk => "IO"

/-- What is wrong with a table of registry entries. -/
inductive RegistryFault where
  | duplicateSetting (s : Setting)
  | duplicatePath (path : String)
  | duplicateVariable (name : String)
  | wrongKind (s : Setting) (given : Value)
  | unregistered (s : Setting)
  deriving DecidableEq, Repr

def RegistryFault.message : RegistryFault → String
  | .duplicateSetting s => "duplicate registry field: " ++ s.name
  | .duplicatePath path => "duplicate registry path: " ++ path
  | .duplicateVariable name => "duplicate registry env: " ++ name
  | .wrongKind s given =>
      "type mismatch for " ++ s.name ++ ": expected " ++ s.kind.word ++ ", got " ++ given.word
  | .unregistered s =>
      "field " ++ quoted s.name ++ " is not registered in the config registry"

/-- What is wrong with a document. -/
inductive DocumentFault where
  | unsupportedFormat (extension : String)
  | manyDocuments
  | topLevel (shape : String)
  | manifestVersion (version : Nat)
  | yaml (fault : Yaml.Fault)
  deriving DecidableEq, Repr

/-- The version of a deprecation manifest that is understood. -/
def understoodVersion : Nat := 1

def DocumentFault.message : DocumentFault → String
  | .unsupportedFormat extension =>
      "unsupported config format " ++ quoted extension ++ " (only YAML supported)"
  | .manyDocuments => "config file contains multiple documents"
  | .topLevel shape => "top level must be a mapping, got " ++ shape
  | .manifestVersion version =>
      "unsupported deprecation manifest version " ++ toString version ++ " (expected " ++
        toString understoodVersion ++ ")"
  | .yaml fault => fault.message

/-- What is wrong with a value. -/
inductive ValueFault where
  | duration (fault : Duration.Fault)
  | tokens (fault : ScopedToken.Fault)
  | credentialMode (text : String)
  | halfCredentials
  | forbiddenCredentials
  | emptyDirectory
  | unusableRoot (text : String)
  | rootIsFile (path : String)
  deriving DecidableEq, Repr

def Duration.Fault.message : Duration.Fault → String
  | .empty => "empty duration"
  | .negative text => "negative duration " ++ quoted text
  | .invalid raw => "invalid duration " ++ quoted raw

def ValueFault.message : ValueFault → String
  | .duration fault => fault.message
  | .tokens fault => fault.message
  | .credentialMode text => quoted text ++ " (expected inherit, none or explicit)"
  | .halfCredentials => "username and password must be set together"
  | .forbiddenCredentials => "authMode none forbids enigma2 credentials"
  | .emptyDirectory => "must not be empty"
  | .unusableRoot text => quoted text ++ " is not a usable directory"
  | .rootIsFile path => "target path " ++ path ++ " exists but is a file"

/-- Two names of one setting of which the first is the one to drop. -/
inductive AliasFamily where
  | receiver
  | vod
  deriving DecidableEq, Repr

def AliasFamily.hint : AliasFamily → String
  | .receiver => "Prefer enigma2.* / XG2G_E2_* and remove openWebIF.* / XG2G_OWI_*"
  | .vod => "Keep the typed vod.* block and remove the flat XG2G_VOD_* variable"

/-- A rule of the final check that does not hold. -/
structure Violation where
  field : String
  message : String
  deriving DecidableEq, Repr

def Violation.text (v : Violation) : String :=
  "validation failed for " ++ v.field ++ ": " ++ v.message

/-- Why something fails. -/
inductive Cause where
  | registry (fault : RegistryFault)
  | aliasConflict (family : AliasFamily) (legacy canonical : String)
  | document (origin : String) (fault : DocumentFault)
  | deprecated (key replacement message : String)
  | removedVariable (name replacement : String)
  | sensitiveUnknown (name : String)
  | invalid (key : String) (fault : ValueFault)
  | violations (first : Violation) (others : List Violation)
  | disk (path : String) (fault : Disk.Fault)
  deriving DecidableEq, Repr

namespace Cause

def failureClass : Cause → FailureClass
  | .registry _ => .registry
  | .aliasConflict .. => .aliasConflict
  | .document .. => .strictDecode
  | .deprecated .. => .deprecated
  | .removedVariable .. => .legacyVariable
  | .sensitiveUnknown _ => .sensitiveUnknown
  | .invalid .. => .invalidValue
  | .violations .. => .validation
  | .disk .. => .disk

def message : Cause → String
  | .registry fault => fault.message
  | .aliasConflict family legacy canonical =>
      legacy ++ " conflicts with " ++ canonical ++ " (compat alias). " ++ family.hint
  | .document origin fault => "strict config parse error in " ++ origin ++ ": " ++ fault.message
  | .deprecated key replacement message =>
      key ++ ": was removed" ++
        (if replacement.isEmpty then "" else "; use " ++ replacement ++ " instead") ++
        (if message.isEmpty then "" else " (" ++ message ++ ")")
  | .removedVariable name replacement =>
      "legacy environment variable " ++ name ++ " is no longer supported; use " ++ replacement ++
        " instead"
  | .sensitiveUnknown name =>
      "unknown security-sensitive environment variable " ++ name ++
        " (strict mode); remove it or fix the name"
  | .invalid key fault => "invalid " ++ key ++ ": " ++ fault.message
  | .violations first others => "; ".intercalate ((first :: others).map Violation.text)
  | .disk path fault => path ++ ": " ++ fault.message

/-- The variable, key or setting the cause is about. -/
def field : Cause → Option String
  | .registry (.wrongKind s _) | .registry (.unregistered s) => some s.name
  | .registry _ => none
  | .aliasConflict _ _ canonical => some canonical
  | .document .. => none
  | .deprecated key _ _ => some key
  | .removedVariable name _ => some name
  | .sensitiveUnknown name => some name
  | .invalid key _ => some key
  | .violations only [] => some only.field
  | .violations .. => none
  | .disk .. => none

end Cause

/-- The stages of a load and of the steps inside them. -/
inductive Stage where
  | removedVariables
  | defaults
  | defaultOf (s : Setting)
  | file
  | presence
  | aliases
  | mergeFile
  | variableAliases
  | mergeVariables
  | paths
  | hlsRoot
  | credentials
  | deprecations
  | variableUse
  | validation
  deriving DecidableEq, Repr

def Stage.label : Stage → String
  | .removedVariables => "check legacy env keys"
  | .defaults => "set defaults"
  | .defaultOf s => "failed to set default for " ++ s.name
  | .file => "load config file"
  | .presence => "parse alias presence"
  | .aliases => "alias conflict check"
  | .mergeFile => "merge file config"
  | .variableAliases => "env alias conflict check"
  | .mergeVariables => "merge env config"
  | .paths => "resolve derived paths"
  | .hlsRoot => "resolve hls root"
  | .credentials => "e2 auth mode"
  | .deprecations => "deprecation policy"
  | .variableUse => "env usage audit"
  | .validation => "config validation failed"

/-- A cause and the stages around it, the outermost first. -/
structure Failure where
  stages : List Stage := []
  cause : Cause
  deriving DecidableEq, Repr

namespace Failure

/-- The failure as seen from around a stage. -/
def within (stage : Stage) (f : Failure) : Failure :=
  { f with stages := stage :: f.stages }

def failureClass (f : Failure) : FailureClass := f.cause.failureClass

def field (f : Failure) : Option String := f.cause.field

/-- The stages and the cause, each behind the one around it. -/
def message (f : Failure) : String :=
  f.stages.foldr (fun stage inner => stage.label ++ ": " ++ inner) f.cause.message

end Failure

instance : Coe Cause Failure := ⟨fun cause => { cause }⟩

end LayeredConfig
