import LayeredConfig.Failure
import LayeredConfig.File.Basic
import LayeredConfig.Yaml.Shape

/-!
# Reading a file strictly

A file is one document.  Every key must be known, no key may come twice, every
value must have the form of its key.  A key without a value sets nothing.
-/

namespace LayeredConfig.File

open Yaml (Tree Document)
open Yaml.Tree (Reader)

/-! ## Records inside lists -/

/-- A token as far as it is read. -/
structure TokenFields where
  token : Option String := none
  scopes : Option (List String) := none
  user : Option String := none

def token : Reader ScopedToken := fun t => do
  let fields ← Tree.record (fun name => match name with
    | "token" => some fun (f : TokenFields) t => do return { f with token := some (← Tree.text t) }
    | "scopes" => some fun f t => do return { f with scopes := some (← Tree.items Tree.text t) }
    | "user" => some fun f t => do return { f with user := ← Tree.optional Tree.text t }
    | _ => none) {} t
  let token ← Tree.required "token" fields.token
  let scopes ← Tree.required "scopes" fields.scopes
  return { token, scopes, user := fields.user }

/-- A path mapping as far as it is read. -/
structure MappingFields where
  receiverRoot : Option String := none
  localRoot : Option String := none

def pathMapping : Reader PathMapping := fun t => do
  let fields ← Tree.record (fun name => match name with
    | "receiver_root" => some fun (f : MappingFields) t => do
        return { f with receiverRoot := some (← Tree.text t) }
    | "local_root" => some fun f t => do return { f with localRoot := some (← Tree.text t) }
    | _ => none) {} t
  let receiverRoot ← Tree.required "receiver_root" fields.receiverRoot
  let localRoot ← Tree.required "local_root" fields.localRoot
  return { receiverRoot, localRoot }

/-- A library root as far as it is read. -/
structure RootFields where
  id : Option String := none
  path : Option String := none
  type : Option String := none
  maxDepth : Int := 0
  extensions : List String := []

def libraryRoot : Reader LibraryRoot := fun t => do
  let fields ← Tree.record (fun name => match name with
    | "id" => some fun (f : RootFields) t => do return { f with id := some (← Tree.text t) }
    | "path" => some fun f t => do return { f with path := some (← Tree.text t) }
    | "type" => some fun f t => do return { f with type := some (← Tree.text t) }
    | "max_depth" => some fun f t => do return { f with maxDepth := ← Tree.int t }
    | "include_ext" => some fun f t => do return { f with extensions := ← Tree.items Tree.text t }
    | _ => none) {} t
  let id ← Tree.required "id" fields.id
  let path ← Tree.required "path" fields.path
  let type ← Tree.required "type" fields.type
  return { id, path, type, maxDepth := fields.maxDepth, extensions := fields.extensions }

/-- Names with a text each; the last text of a name counts. -/
def table : Reader Table := fun t => do
  let entries ← Tree.entries t
  entries.foldlM (fun table (key, value) => do
    let name ← Tree.text key
    let text ← Tree.text value
    return Table.put name text table) []

/-! ## Keys and blocks -/

def ofKind (k : Kind) (t : Tree) : Except Yaml.Fault Value :=
  match k with
  | .text | .optionalText | .duration => Value.text <$> Tree.text t
  | .int => Value.int <$> Tree.int t
  | .bool => Value.bool <$> Tree.bool t
  | .float => Value.float <$> Tree.float t
  | .texts => Value.texts <$> Tree.items Tree.text t
  | .ints => Value.ints <$> Tree.items Tree.int t
  | .table => Value.table <$> table t
  | .tokens => Value.tokens <$> Tree.items token t
  | .mappings => Value.mappings <$> Tree.items pathMapping t
  | .libraryRoots => Value.libraryRoots <$> Tree.items libraryRoot t

def ofKey (k : FileKey) : Reader Value := fun t =>
  match k.setting.form with
  | .asHeld => ofKind k.setting.kind t
  | .textOrNumber => Value.text <$> Tree.textOrNumber t
  | .listOfTexts => Value.texts <$> Tree.items Tree.text t

/-- Reads a block of the file; `depth` bounds the blocks inside it. -/
def block : (depth : Nat) → (steps : List String) → File → Reader File
  | 0, _, _ => fun _ => .error .malformed
  | depth + 1, steps, start =>
      Tree.record (fun name =>
        let inside := steps ++ [name]
        match FileKey.withSteps inside with
        | some k => some fun f t => do return f.put k (← Tree.optional (ofKey k) t)
        | none =>
            if FileKey.isBlock inside then
              some fun f t => do
                if ← Tree.isAbsent t then return f else block depth inside (f.addBlock inside) t
            else none) start

/-- No key has more steps. -/
def maxSteps : Nat := 4

def ofTree (t : Tree) : Except Yaml.Fault File :=
  block maxSteps [] empty t

/-- The file in a text.  A document that is null sets nothing. -/
def decode (origin text : String) : Except Failure File :=
  let document := Document.ofText text
  let refuse {α : Type} (fault : DocumentFault) : Except Failure α :=
    .error (Cause.document origin fault)
  match document.root with
  | none => .ok empty
  | some tree =>
      if document.more then refuse .manyDocuments
      else
        match Yaml.Value.ofTree tree with
        | .error fault => refuse (.yaml fault)
        | .ok loose =>
            if loose.isNull then .ok empty
            else
              match ofTree tree with
              | .ok file => .ok file
              | .error fault => refuse (.yaml fault)

end LayeredConfig.File
