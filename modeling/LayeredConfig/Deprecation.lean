import LayeredConfig.Disk.Access
import LayeredConfig.Presence
import LayeredConfig.Variable
import LayeredConfig.Yaml.Shape

/-!
# Keys and variables on their way out

Some variables were removed outright; one that is still there stops a load.  A
manifest lists the others: keys of the file and variables, by name or by what
they start with, each with a phase.  A key in the phase `warn` warns, one in the
phase `fail` stops the load.
-/

namespace LayeredConfig

open Text
open Yaml (Tree)

/-- What happens if a key is still in use. -/
inductive Phase where
  | warn | fail
  deriving DecidableEq, Repr

def Phase.name : Phase → String
  | .warn => "warn"
  | .fail => "fail"

/-- A key or a variable on its way out; a star at the end stands for anything. -/
structure Deprecation where
  key : String
  replacement : String := ""
  phase : Phase
  message : String := ""
  deriving DecidableEq, Repr

/-- A list of keys and variables on their way out. -/
structure Manifest where
  version : Nat
  deprecations : List Deprecation
  deriving DecidableEq, Repr

namespace Deprecation

/-! ## Removed variables -/

/-- The variables that were removed, and what to use in their place. -/
def removedVariables : List (String × String) :=
  [("XG2G_V3_E2_HOST", "XG2G_E2_HOST"),
   ("XG2G_V3_E2_USER", "XG2G_E2_USER"),
   ("XG2G_V3_E2_PASS", "XG2G_E2_PASS"),
   ("XG2G_V3_CONFIG_STRICT", "XG2G_CONFIG_STRICT"),
   ("XG2G_V3_STORE_PATH", "XG2G_STORE_PATH"),
   ("XG2G_V3_FFMPEG_BIN", "XG2G_FFMPEG_BIN"),
   ("XG2G_STREAM_PROFILE", "XG2G_STREAMING_POLICY=universal"),
   ("XG2G_OWI_TIMEOUT", "XG2G_E2_TIMEOUT")]

/-- A line `name=value` at its first equals sign. -/
def nameAndValue (line : String) : Option (String × String) :=
  (cutOnce '=' line.toList).map fun (name, value) => (String.ofList name, String.ofList value)

/-- The name in a line of a listing of variables. -/
def nameOf (line : String) : String :=
  match nameAndValue line with
  | some (name, _) => name
  | none => line

def checkRemoved : (listing : List String) → Except Failure Unit
  | [] => .ok ()
  | line :: rest =>
      match removedVariables.find? fun removed => removed.1 = nameOf line with
      | some (name, replacement) => .error (Cause.removedVariable name replacement)
      | none => checkRemoved rest

/-! ## Use of a key -/

/-- Whether the key names a variable; the others name keys of the file. -/
def isVariable (key : String) : Bool := startsWith "XG2G_".toList key.toList

/-- What stands in front of a star at the end. -/
def start? (key : String) : Option String :=
  (stripEnd ['*'] key.toList).map String.ofList

def variableFrom (start : String) (listing : List String) : Option String :=
  (listing.filterMap nameAndValue).findSome? fun (name, value) =>
    if startsWith start.toList name.toList && !isBlankText value.toList then some name else none

/-- The block that a text names: its dots at the end do not count. -/
def blockOf (start : String) : String :=
  String.ofList (start.toList.reverse.dropWhile (· = '.')).reverse

/-- The key as it is in use, if it is.  Keys of a file are not in use where there is none. -/
def usage (key : String) (listing : List String) (presence : Option Presence) :
    Reading (Option String) :=
  match start? key, isVariable key with
  | some start, true => return variableFrom start listing
  | none, true => do return (← Variable.nonblank key).map fun _ => key
  | some start, false =>
      return presence.bind fun p =>
        if p.hasBlock (blockOf start) then some (start ++ "*") else none
  | none, false => return presence.bind fun p => if p.hasPath key then some key else none

end Deprecation

namespace Manifest

/-- The manifest that always holds. -/
def builtIn : Manifest :=
  { version := understoodVersion
    deprecations :=
      [{ key := "XG2G_STREAM_PORT", replacement := "XG2G_E2_STREAM_PORT", phase := .warn,
         message := "the flat stream port variable is a compatibility alias" },
       { key := "XG2G_OWI_*", replacement := "XG2G_E2_*", phase := .warn,
         message := "OpenWebIF variables are compatibility aliases" },
       { key := "openWebIF.*", replacement := "enigma2.*", phase := .warn,
         message := "the openWebIF block is a compatibility alias" },
       { key := "XG2G_HTTP_ENABLE_HTTP2", phase := .fail,
         message := "HTTP/2 is negotiated automatically" }] }

/-- The list with one more entry, which takes the place of one with the same key. -/
def add (entries : List Deprecation) (entry : Deprecation) : List Deprecation :=
  match entries with
  | [] => [entry]
  | first :: rest => if first.key = entry.key then entry :: rest else first :: add rest entry

def merge (m other : Manifest) : Manifest :=
  { m with deprecations := other.deprecations.foldl add m.deprecations }

/-! ## Reading -/

/-- An entry as far as it is read. -/
structure EntryFields where
  key : Option String := none
  replacement : String := ""
  phase : Option Phase := none
  message : String := ""

def entry : Tree.Reader Deprecation := fun t => do
  let fields ← Tree.record (fun name => match name with
    | "key" => some fun (f : EntryFields) t => do return { f with key := some (← Tree.text t) }
    | "replacement" => some fun f t => do return { f with replacement := ← Tree.text t }
    | "phase" => some fun f t => do
        return { f with phase := some (← Tree.word [("warn", Phase.warn), ("fail", Phase.fail)] t) }
    | "message" => some fun f t => do return { f with message := ← Tree.text t }
    | _ => none) {} t
  let key ← Tree.required "key" fields.key
  let phase ← Tree.required "phase" fields.phase
  return { key, replacement := fields.replacement, phase, message := fields.message }

/-- A manifest as far as it is read. -/
structure Fields where
  version : Option Nat := none
  deprecations : List Deprecation := []

def ofTree : Tree.Reader Manifest := fun t => do
  let fields ← Tree.record (fun name => match name with
    | "version" => some fun (f : Fields) t => do
        return { f with version := some (← Tree.unsigned 32 t) }
    | "deprecations" => some fun f t => do
        return { f with deprecations := ← Tree.items entry t }
    | _ => none) {} t
  return { version := ← Tree.required "version" fields.version
           deprecations := fields.deprecations }

/-- The manifest in a text, which holds one document; an empty text is an empty mapping. -/
def decode (text : String) : Except Yaml.Fault Manifest := do
  let document := Yaml.Document.ofText text
  let manifest ← ofTree (document.root.getD (.mapping none []))
  if document.more then .error .malformed else return manifest

/-- The built-in manifest with the entries of a text. -/
def ofText (origin text : String) : Except Failure Manifest :=
  match decode text with
  | .error fault => .error (Cause.document origin (.yaml fault))
  | .ok external =>
      if external.version = understoodVersion then .ok (builtIn.merge external)
      else .error (Cause.document origin (.manifestVersion external.version))

/-- The built-in manifest with the entries of a file; a file that is not there adds none. -/
def load (d : Disk) (path : Option String) : Except Failure Manifest :=
  match path with
  | none => .ok builtIn
  | some path =>
      match d.readText path with
      | .ok text => ofText path text
      | .error .notFound => .ok builtIn
      | .error fault => .error (Cause.disk path fault)

/-! ## Enforcing -/

def checkEntry (listing : List String) (presence : Option Presence) (e : Deprecation) :
    Reading Unit := do
  match ← Deprecation.usage e.key listing presence with
  | none => return ()
  | some found =>
      match e.phase with
      | .warn => Reading.caution (.deprecatedKey found e.replacement e.message)
      | .fail => Reading.refuse (.deprecated found e.replacement e.message)

def check (m : Manifest) (listing : List String) (presence : Option Presence) : Reading Unit :=
  m.deprecations.forM (checkEntry listing presence)

end Manifest

end LayeredConfig
