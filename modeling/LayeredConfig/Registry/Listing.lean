import LayeredConfig.Change
import LayeredConfig.ConfigTree

/-!
# The registry as a listing

One line or one JSON object per entry.  Defaults of secret settings are masked;
internal entries are left out unless all are asked for.
-/

namespace LayeredConfig.Registry

def isListed (all : Bool) (e : Entry) : Bool :=
  all || (e.path.isSome && e.status != .internal)

def defaultText (e : Entry) : String :=
  match e.default with
  | none => "-"
  | some v =>
      if e.secret then "********"
      else
        match v.json with
        | .text s => s
        | other => other.write

def variablesText (e : Entry) : String :=
  let names := match e.legacy with
    | none => e.primary.getD ""
    | some older => e.primary.getD "" ++ " (" ++ older ++ ")"
  if names.isEmpty then "-" else names

/-- Five columns. -/
def row (path names tier reload default : String) : String :=
  Summary.padded 36 path ++ " " ++ Summary.padded 34 names ++ " " ++ Summary.padded 12 tier ++
    " " ++ Summary.padded 8 reload ++ " " ++ default ++ "\n"

def text (r : Registry) (all : Bool) : String :=
  row "PATH" "ENV" "PROFILE" "RELOAD" "DEFAULT" ++
    String.join ((r.entries.filter (isListed all)).map fun e =>
      row (e.path.getD e.setting.name) (variablesText e) e.tier.name
        (if e.isLive then "hot" else "restart") (defaultText e))

def entryJson (e : Entry) : Json :=
  .object
    [("default", match e.default with
       | some v => if e.secret then .null else v.json
       | none => .null),
     ("env", .text (e.primary.getD "")),
     ("field", .text e.setting.name),
     ("hotReloadable", .bool e.isLive),
     ("legacyEnv", .text (e.legacy.getD "")),
     ("path", .text (e.path.getD "")),
     ("profile", .text e.tier.name),
     ("secret", .bool e.secret),
     ("status", .text e.status.name)]

def json (r : Registry) (all : Bool) : Json :=
  .list ((r.entries.filter (isListed all)).map entryJson)

end LayeredConfig.Registry
