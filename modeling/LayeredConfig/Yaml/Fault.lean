/-!
# Faults of a YAML document

A document is refused because its text is no well-formed document of the wanted
shape, or because of one of its names.  Only the names are told.
-/

namespace LayeredConfig.Yaml

/-- Why a document is refused. -/
inductive Fault where
  | malformed
  | unknownField (name : String)
  | missingField (name : String)
  | duplicateField (name : String)
  | unknownVariant (name : String)
  deriving DecidableEq, Repr

def Fault.message : Fault → String
  | .malformed => "<yaml>"
  | .unknownField name => "<yaml: unknown field `" ++ name ++ "`>"
  | .missingField name => "<yaml: missing field `" ++ name ++ "`>"
  | .duplicateField name => "<yaml: duplicate field `" ++ name ++ "`>"
  | .unknownVariant name => "<yaml: unknown variant `" ++ name ++ "`>"

end LayeredConfig.Yaml
