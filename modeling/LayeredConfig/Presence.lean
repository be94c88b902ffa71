import LayeredConfig.Failure
import LayeredConfig.Yaml.Value

/-!
# Keys that stand in a file

What a file sets cannot be read off the values alone: a key may be written with
an empty value.  `Presence` is the set of dotted keys that the text holds,
whatever their values are.
-/

namespace LayeredConfig

open Text Yaml

/-- The keys of a file. -/
structure Presence where
  /-- The keys directly inside the older receiver block. -/
  legacy : List String := []
  /-- The keys directly inside the receiver block. -/
  canonical : List String := []
  /-- Every dotted key, those of blocks included. -/
  paths : List String := []
  deriving DecidableEq, Repr

namespace Presence

def legacyBlock : String := "openWebIF"

/-- The receiver block. -/
def canonicalBlock : String := "enigma2"

mutual

/-- The dotted keys at and below a key. -/
def pathsAt (path : String) (v : Yaml.Value) : List String :=
  match v with
  | .mapping entries => path :: pathsBelow path entries
  | _ => [path]

/-- The dotted keys of the entries below a key; only text can be a key. -/
def pathsBelow (path : String) : List (Yaml.Value × Yaml.Value) → List String
  | [] => []
  | (key, value) :: rest =>
      match key.text? with
      | some name => pathsAt (path ++ "." ++ name) value ++ pathsBelow path rest
      | none => pathsBelow path rest

end

/-- The keys directly inside a value. -/
def keysOf : Yaml.Value → List String
  | .mapping entries => entries.filterMap fun entry => entry.1.text?
  | _ => []

/-- The keys of one more entry of the file. -/
def add (p : Presence) (name : String) (value : Yaml.Value) : Presence :=
  { legacy := if name = legacyBlock then p.legacy ++ keysOf value else p.legacy
    canonical := if name = canonicalBlock then p.canonical ++ keysOf value else p.canonical
    paths := p.paths ++ pathsAt name value }

/-- The keys of a whole file. -/
def ofEntries (entries : List (Yaml.Value × Yaml.Value)) : Presence :=
  entries.foldl (fun p entry =>
    match entry.1.text? with
    | some name => p.add name entry.2
    | none => p) {}

/-- The name of this scan in messages. -/
def origin : String := "alias presence scan"

/-- The keys of a text: it is empty or a mapping. -/
def ofText (text : String) : Except Failure Presence :=
  match Yaml.Value.ofText text with
  | .error fault => .error (Cause.document origin (.yaml fault))
  | .ok .null => .ok {}
  | .ok (.mapping entries) => .ok (ofEntries entries)
  | .ok other => .error (Cause.document origin (.topLevel other.shape))

/-- Does the older receiver block hold the key? -/
def hasLegacy (p : Presence) (key : String) : Bool := p.legacy.contains key

def hasCanonical (p : Presence) (key : String) : Bool := p.canonical.contains key

def hasPath (p : Presence) (path : String) : Bool := p.paths.contains path

/-- Does the file hold the block or a key inside it? -/
def hasBlock (p : Presence) (block : String) : Bool :=
  p.paths.any fun path =>
    match stripStart block.toList path.toList with
    | some [] => true
    | some ('.' :: _) => true
    | _ => false

end Presence

end LayeredConfig
