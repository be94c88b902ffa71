import LayeredConfig.Json.Value
import LayeredConfig.Registry.Basic
import LayeredConfig.Text.Cut
import LayeredConfig.Token

/-!
# A configuration as a tree

The values of a configuration under their dotted keys, as nested JSON objects
with sorted members.  Secret values are masked; of a secret list of tokens the
scopes stay.
-/

namespace LayeredConfig

open Text

namespace Value

/-- A value as JSON.  Durations are text. -/
def json : Value → Json
  | .unset => .null
  | .text v => .text v
  | .int v => .int v
  | .bool v => .bool v
  | .float v => if v.isFinite then .float v else .null
  | .duration v => .text v.write
  | .texts v => .list (v.map .text)
  | .ints v => .list (v.map .int)
  | .table v => .object (v.map fun entry => (entry.1, .text entry.2))
  | .tokens v => .list (v.map ScopedToken.toJson)
  | .mappings v => .list (v.map fun m =>
      .object [("local_root", .text m.localRoot), ("receiver_root", .text m.receiverRoot)])
  | .libraryRoots v => .list (v.map fun r =>
      .object [("id", .text r.id), ("include_ext", .list (r.extensions.map .text)),
        ("max_depth", .int r.maxDepth), ("path", .text r.path), ("type", .text r.type)])

/-- What stands in the place of a secret. -/
def mask : Json := .text "********"

/-- A secret value as JSON: only whether it is empty and the scopes of tokens can be seen. -/
def masked : Value → Json
  | .unset => .null
  | .text v => if v.isEmpty then .text "" else mask
  | .tokens v => .list (v.map fun t =>
      .object [("scopes", .list (t.scopes.map .text)), ("token", mask)])
  | _ => mask

end Value

namespace ConfigTree

/-- The members with a value under a key of several steps.  Anything but an object on the way is
replaced by one. -/
def insert (value : Json) : (steps : List String) → List (String × Json) → List (String × Json)
  | [], members => members
  | [last], members => Json.put last value members
  | step :: next :: rest, members =>
      let below := match Json.member step members with
        | some (.object inner) => inner
        | _ => []
      Json.put step (.object (insert value (next :: rest) below)) members

def shown (r : Registry) (c : Config) (s : Setting) : Json :=
  if r.isSecret s then (c.leaf s).masked else (c.leaf s).json

/-- The steps of the key under which a setting is shown. -/
def steps (r : Registry) (s : Setting) : List String :=
  (pieces '.' (r.shownPath s).toList).map String.ofList

def members (r : Registry) (c : Config) : List (String × Json) :=
  Setting.all.foldl (fun tree s => insert (shown r c s) (steps r s) tree) []

def ofConfig (r : Registry) (c : Config) : Json := .object (members r c)

end ConfigTree

end LayeredConfig
