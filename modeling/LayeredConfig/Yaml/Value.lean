import LayeredConfig.Yaml.Plain
import LayeredConfig.Yaml.Tree

/-!
# Documents as untyped values

A plain scalar is what the core schema makes of it, a quoted one is text, and a
tag of the author's own stays beside its value.  A mapping may hold a key only
once.
-/

namespace LayeredConfig.Yaml

open Number

/-- A value of a document whose shape is not known. -/
inductive Value where
  | null
  | bool (b : Bool)
  | int (i : Int)
  | float (x : Binary64)
  | text (s : String)
  | sequence (items : List Value)
  | mapping (entries : List (Value × Value))
  | tagged (tag : List Char) (value : Value)
  deriving Repr

namespace Value

def sameFloat (x y : Binary64) : Bool :=
  x.equal y || (x == .nan && y == .nan)

mutual

/-- Are two values one and the same key? -/
def same : Value → Value → Bool
  | .null, .null => true
  | .bool a, .bool b => a == b
  | .int a, .int b => a == b
  | .float a, .float b => sameFloat a b
  | .text a, .text b => a == b
  | .sequence a, .sequence b => sameItems a b
  | .mapping a, .mapping b => a.length == b.length && sameEntries a b
  | .tagged t a, .tagged u b => t == u && same a b
  | _, _ => false

def sameItems : List Value → List Value → Bool
  | [], [] => true
  | a :: as, b :: bs => same a b && sameItems as bs
  | _, _ => false

/-- Does the second mapping hold every entry of the first? -/
def sameEntries : List (Value × Value) → List (Value × Value) → Bool
  | [], _ => true
  | (key, value) :: rest, others =>
      (others.any fun other => same key other.1 && same value other.2) && sameEntries rest others

end

/-- The value behind all tags. -/
def untagged : Value → Value
  | .tagged _ value => untagged value
  | other => other

/-- The text, through all tags. -/
def text? (v : Value) : Option String :=
  match v.untagged with
  | .text s => some s
  | _ => none

/-- Null, through all tags. -/
def isNull (v : Value) : Bool :=
  match v.untagged with
  | .null => true
  | _ => false

def shape : Value → String
  | .null => "null"
  | .bool _ => "bool"
  | .int _ | .float _ => "number"
  | .text _ => "string"
  | .sequence _ => "sequence"
  | .mapping _ => "mapping"
  | .tagged .. => "tagged value"

/-- The numbers that a signed or an unsigned word of 64 bits can hold. -/
def fitsWord (i : Int) : Bool :=
  fitsInt64 i || (0 ≤ i && i < Nat.pow 2 64)

/-- The numbers that count as whole, be they too large for a word or not. -/
def fitsDoubleWord (i : Int) : Bool :=
  -(Nat.pow 2 127) ≤ i && i < Nat.pow 2 128

/-- A whole number; one that is too large for a word is refused. -/
def ofWhole (i : Int) : Except Fault Value :=
  if fitsWord i then .ok (.int i) else .error .malformed

def ofPlain (cs : List Char) : Except Fault Value :=
  if cs.isEmpty || isNullWord cs then .ok .null
  else
    match readBool cs, (readWhole cs).filter fitsDoubleWord with
    | some b, _ => .ok (.bool b)
    | none, some i => ofWhole i
    | none, none =>
        match readFloat cs with
        | some x => if hasLeadingZero cs then .ok (.text (String.ofList cs)) else .ok (.float x)
        | none => .ok (.text (String.ofList cs))

def coreTag (name : String) : List Char :=
  ("tag:yaml.org,2002:" ++ name).toList

/-- A scalar with a tag of the core schema or of another scheme. -/
def ofSchemeTag (tag : List Char) (cs : List Char) : Except Fault Value :=
  let must (v : Option Value) : Except Fault Value :=
    match v with
    | some v => .ok v
    | none => .error .malformed
  if tag = coreTag "bool" then must ((readBool cs).map .bool)
  else if tag = coreTag "int" then
    match (readWhole cs).filter fitsDoubleWord with
    | some i => ofWhole i
    | none => .error .malformed
  else if tag = coreTag "float" then must ((readFloat cs).map .float)
  else if tag = coreTag "null" then must (if isNullWord cs then some .null else none)
  else .ok (.text (String.ofList cs))

/-- A scalar that has no tag, or whose own tag is kept apart. -/
def ofUntagged (cs : List Char) (style : Style) : Except Fault Value :=
  if style = .plain then ofPlain cs else .ok (.text (String.ofList cs))

/-- The name of a tag of the author's own.  The lone `!` is its own name. -/
def ownTag : Option (List Char) → Option (List Char)
  | some ['!'] => some ['!']
  | some ('!' :: name) => some name
  | _ => none

def withTag (tag : Option (List Char)) (v : Value) : Value :=
  match ownTag tag with
  | none => v
  | some name => .tagged name v

mutual

def ofTree : Tree → Except Fault Value
  | .broken => .error .malformed
  | .scalar tag cs style => do
      match tag, ownTag tag with
      | some scheme, none => ofSchemeTag scheme cs
      | _, _ => return withTag tag (← ofUntagged cs style)
  | .sequence tag items => do return withTag tag (.sequence (← ofItems items))
  | .mapping tag entries => do return withTag tag (.mapping (← ofEntries [] entries))

def ofItems : List Tree → Except Fault (List Value)
  | [] => .ok []
  | item :: rest => do
      let value ← ofTree item
      return value :: (← ofItems rest)

/-- The entries of a mapping; `keys` are the keys in front. -/
def ofEntries (keys : List Value) : List (Tree × Tree) → Except Fault (List (Value × Value))
  | [] => .ok []
  | (key, value) :: rest => do
      let k ← ofTree key
      if keys.any fun known => same known k then .error .malformed
      else
        let v ← ofTree value
        return (k, v) :: (← ofEntries (k :: keys) rest)

end

/-- The value of a text that holds one document; no document is null. -/
def ofText (text : String) : Except Fault Value := do
  let document := Document.ofText text
  let value ← match document.root with
    | some tree => ofTree tree
    | none => .ok .null
  if document.more then .error .malformed else return value

end Value

end LayeredConfig.Yaml
