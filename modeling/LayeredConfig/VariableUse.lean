import LayeredConfig.Deprecation
import LayeredConfig.HlsRoot
import LayeredConfig.Registry.Basic

/-!
# Variables that nothing reads

A variable of the program that no stage looked up and no entry of the registry
knows is most likely misspelled.  It is reported; in strict mode one whose name
looks as if it guarded something stops the load.
-/

namespace LayeredConfig.VariableUse

open Text

def fileVariable : String := "XG2G_CONFIG"

def manifestVariable : String := "XG2G_DEPRECATIONS_FILE"

/-- Variables that are read beside those of the settings. -/
def auxiliary : List String := [fileVariable, manifestVariable, HlsRoot.olderVariableName]

/-- Parts of a name that show that the variable guards something. -/
def sensitiveParts : List String :=
  ["AUTH", "TOKEN", "PASS", "PASSWORD", "TLS", "HTTPS", "TRUST", "PROXY", "ORIGIN", "CORS"]

/-- Whether a variable looks as if it guarded something, letter case aside. -/
def isSensitive (name : String) : Bool :=
  let upper := name.toList.map Char.toUpper
  sensitiveParts.any fun part => contains part.toList upper

/-- Whether a variable should have been read by something. -/
def isUnknown (r : Registry) (asked : List String) (name : String) : Bool :=
  Deprecation.isVariable name && !asked.contains name && (r.byVariable name).isNone &&
    !auxiliary.contains name

def report (strict : Bool) (name : String) : Reading Unit :=
  if strict && isSensitive name then Reading.refuse (.sensitiveUnknown name)
  else Reading.caution (.unknownVariable name)

/-- The unknown variables of a listing, sorted. -/
def audit (r : Registry) (listing asked : List String) (strict : Bool) : Reading (List String) := do
  let unknown := (listing.map Deprecation.nameOf).filter (isUnknown r asked)
  unknown.forM (report strict)
  return unknown.mergeSort (· ≤ ·)

end LayeredConfig.VariableUse
