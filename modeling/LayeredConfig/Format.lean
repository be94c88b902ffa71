import LayeredConfig.ConfigTree
import LayeredConfig.Registry.Listing
import LayeredConfig.Yaml.Block

/-!
# Forms of output

A configuration is shown as YAML or JSON; summaries of changes and the registry
are listed as text or JSON.
-/

namespace LayeredConfig

open Text

/-- How a configuration is shown. -/
inductive ConfigFormat where
  | yaml | json
  deriving DecidableEq, Repr

/-- How a listing is shown. -/
inductive ListingFormat where
  | text | json
  deriving DecidableEq, Repr

/-- A name of no form, and the names there are. -/
structure UnknownFormat where
  given : String
  valid : List String
  deriving DecidableEq, Repr

def UnknownFormat.message (f : UnknownFormat) : String :=
  "Invalid format '" ++ f.given ++ "'. Valid options: " ++ ", ".intercalate f.valid

namespace ConfigFormat

def name : ConfigFormat → String
  | .yaml => "yaml"
  | .json => "json"

/-- The form with a name, letter case aside. -/
def read (given : String) : Except UnknownFormat ConfigFormat :=
  match String.ofList (lowerAscii given.toList) with
  | "yaml" | "yml" => .ok .yaml
  | "json" => .ok .json
  | _ => .error { given, valid := ["yaml", "json"] }

end ConfigFormat

namespace ListingFormat

def name : ListingFormat → String
  | .text => "text"
  | .json => "json"

/-- The form with a name, letter case aside. -/
def read (given : String) : Except UnknownFormat ListingFormat :=
  match String.ofList (lowerAscii given.toList) with
  | "text" | "txt" => .ok .text
  | "json" => .ok .json
  | _ => .error { given, valid := ["text", "json"] }

end ListingFormat

def ConfigTree.render (r : Registry) (c : Config) : ConfigFormat → String
  | .yaml => Yaml.Block.document (ofConfig r c)
  | .json => (ofConfig r c).pretty

def Summary.render (s : Summary) : ListingFormat → String
  | .text => s.text
  | .json => s.json.pretty

def Registry.render (r : Registry) (all : Bool) : ListingFormat → String
  | .text => r.text all
  | .json => (r.json all).pretty

end LayeredConfig
