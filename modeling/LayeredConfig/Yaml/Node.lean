import LayeredConfig.Yaml.Token.Stream

/-!
# Nodes of a document

Tokens are put together to scalars, sequences and mappings.  An anchor gives a
node a number, an alias refers to one.  Where the text is malformed the tree
ends with `broken`, so that a reader meets what stands in front of the fault
first.
-/

namespace LayeredConfig.Yaml

/-- What stands in front of a node. -/
structure Marks where
  anchor : Option Nat := none
  tag : Option (List Char) := none
  deriving DecidableEq, Repr

/-- A node with references to others. -/
inductive Node where
  | alias (anchor : Nat)
  | scalar (marks : Marks) (text : List Char) (style : Style)
  | sequence (marks : Marks) (items : List Node)
  | mapping (marks : Marks) (entries : List (Node × Node))
  | broken
  deriving Repr

namespace Node

/-- What is not written at all. -/
def nothing : Node := .scalar {} [] .plain

/-- The tokens ahead with the names that are known. -/
structure Ahead where
  tokens : List Token
  /-- The anchors so far with their numbers. -/
  anchors : List (List Char × Nat) := []
  /-- The tag handles and what they stand for. -/
  handles : List (List Char × List Char) := []

namespace Ahead

def next (a : Ahead) : Token := a.tokens.headD .bad

def skip (a : Ahead) : Ahead := { a with tokens := a.tokens.drop 1 }

/-- Nothing can be read behind a fault. -/
def stop (a : Ahead) : Ahead := { a with tokens := [] }

/-- A node that is not written, unless a fault follows. -/
def unwritten (marks : Marks) (a : Ahead) : Node × Ahead :=
  if a.next == .bad then (.broken, a.stop) else (.scalar marks [] .plain, a)

/-- Gives an anchor its number, the count of the names in front of it.  A name that comes again
takes a new number. -/
def addAnchor (a : Ahead) (name : List Char) : Nat × Ahead :=
  let id := a.anchors.length
  (id, { a with anchors := (name, id) :: a.anchors.filter fun known => known.1 ≠ name })

/-- The text of a tag, its handle replaced. -/
def resolve (a : Ahead) (t : TagName) : Option (List Char) :=
  if t.handle.isEmpty then some t.suffix
  else (a.handles.find? fun known => known.1 = t.handle).map fun known => known.2 ++ t.suffix

end Ahead

/-- An anchor and a tag, in either order. -/
def readMarks (a : Ahead) : Option (Marks × Ahead) :=
  match a.tokens with
  | .anchor name :: .tag t :: rest =>
      let (id, known) := a.addAnchor name
      (a.resolve t).map fun tag => (⟨some id, some tag⟩, { known with tokens := rest })
  | .tag t :: .anchor name :: rest =>
      let (id, known) := a.addAnchor name
      (a.resolve t).map fun tag => (⟨some id, some tag⟩, { known with tokens := rest })
  | .anchor name :: rest =>
      let (id, known) := a.addAnchor name
      some (⟨some id, none⟩, { known with tokens := rest })
  | .tag t :: rest =>
      (a.resolve t).map fun tag => (⟨none, some tag⟩, { a with tokens := rest })
  | _ => some ({}, a)

/-- A token behind which an entry of a block is empty. -/
def endsBlockValue : Token → Bool
  | .key | .value | .blockEnd => true
  | _ => false

/-- A token behind which a value in brackets is empty. -/
def endsFlowValue (closing : Token) (t : Token) : Bool :=
  t == .flowEntry || t == closing

mutual

/-- A node.  `block` says whether a block may start here, `inMapping` whether the entries of a
sequence may stand at the indentation of the mapping.  `steps` bounds the tokens that are left. -/
def readNode (steps : Nat) (block inMapping : Bool) (a : Ahead) : Node × Ahead :=
  match steps with
  | 0 => (.broken, a.stop)
  | steps + 1 =>
      match a.next with
      | .alias name =>
          match a.anchors.find? fun known => known.1 = name with
          | some (_, id) => (.alias id, a.skip)
          | none => (.broken, a.stop)
      | _ =>
          match readMarks a with
          | none => (.broken, a.stop)
          | some (marks, a) =>
              match a.next with
              | .scalar text style => (.scalar marks text style, a.skip)
              | .flowSequence =>
                  let (items, rest) := readFlowItems steps true a.skip
                  (.sequence marks items, rest)
              | .flowMapping =>
                  let (entries, rest) := readFlowEntries steps true a.skip
                  (.mapping marks entries, rest)
              | token =>
                  if inMapping && token == .blockEntry then
                    let (items, rest) := readItems steps true a
                    (.sequence marks items, rest)
                  else if block && token == .blockSequence then
                    let (items, rest) := readItems steps false a.skip
                    (.sequence marks items, rest)
                  else if block && token == .blockMapping then
                    let (entries, rest) := readEntries steps a.skip
                    (.mapping marks entries, rest)
                  else if marks == {} then (.broken, a.stop)
                  else a.unwritten marks

/-- The entries of a block sequence; one that stands `inMapping` has no end of its own. -/
def readItems (steps : Nat) (inMapping : Bool) (a : Ahead) : List Node × Ahead :=
  match steps with
  | 0 => ([.broken], a.stop)
  | steps + 1 =>
      match a.next with
      | .blockEntry =>
          let after := a.skip
          let empty := after.next == .blockEntry || after.next == .blockEnd ||
            (inMapping && endsBlockValue after.next)
          let (item, rest) := if empty then (nothing, after) else readNode steps true false after
          let (items, tail) := readItems steps inMapping rest
          (item :: items, tail)
      | token =>
          if inMapping && token != .bad then ([], a)
          else if token == .blockEnd then ([], a.skip)
          else ([.broken], a.stop)

def readEntries (steps : Nat) (a : Ahead) : List (Node × Node) × Ahead :=
  match steps with
  | 0 => ([(.broken, .broken)], a.stop)
  | steps + 1 =>
      match a.next with
      | .key =>
          let (key, behind) := readBlockValue steps a.skip
          let (value, rest) :=
            if behind.next == .value then readBlockValue steps behind.skip else behind.unwritten {}
          let (entries, tail) := readEntries steps rest
          ((key, value) :: entries, tail)
      | .blockEnd => ([], a.skip)
      | _ => ([(.broken, .broken)], a.stop)

/-- A key or a value of a block mapping. -/
def readBlockValue (steps : Nat) (a : Ahead) : Node × Ahead :=
  match steps with
  | 0 => (.broken, a.stop)
  | steps + 1 => if endsBlockValue a.next then (nothing, a) else readNode steps true true a

/-- The entries of a sequence in brackets. -/
def readFlowItems (steps : Nat) (first : Bool) (a : Ahead) : List Node × Ahead :=
  match steps with
  | 0 => ([.broken], a.stop)
  | steps + 1 =>
      if a.next == .flowSequenceEnd then ([], a.skip)
      else if !first && a.next != .flowEntry then ([.broken], a.stop)
      else
        let a := if first then a else a.skip
        if a.next == .flowSequenceEnd then ([], a.skip)
        else
          let (item, rest) :=
            if a.next == .key then readPair steps a.skip else readNode steps false false a
          let (items, tail) := readFlowItems steps false rest
          (item :: items, tail)

/-- A mapping of one entry inside a sequence in brackets.  The mark behind an empty key is
skipped. -/
def readPair (steps : Nat) (a : Ahead) : Node × Ahead :=
  match steps with
  | 0 => (.broken, a.stop)
  | steps + 1 =>
      let ends := endsFlowValue .flowSequenceEnd
      let (key, behind) :=
        if a.next == .value || ends a.next then (nothing, a.skip)
        else readNode steps false false a
      let (value, rest) :=
        if behind.next == .value then
          let after := behind.skip
          if ends after.next then (nothing, after) else readNode steps false false after
        else behind.unwritten {}
      let tail := if rest.next == .bad then [(broken, broken)] else []
      (.mapping {} ((key, value) :: tail), rest)

def readFlowEntries (steps : Nat) (first : Bool) (a : Ahead) : List (Node × Node) × Ahead :=
  match steps with
  | 0 => ([(.broken, .broken)], a.stop)
  | steps + 1 =>
      let ends := endsFlowValue .flowMappingEnd
      if a.next == .flowMappingEnd then ([], a.skip)
      else if !first && a.next != .flowEntry then ([(.broken, .broken)], a.stop)
      else
        let a := if first then a else a.skip
        if a.next == .flowMappingEnd then ([], a.skip)
        else
          let (entry, rest) :=
            if a.next == .key then
              let inside := a.skip
              let (key, behind) :=
                if inside.next == .value || ends inside.next then (nothing, inside)
                else readNode steps false false inside
              if behind.next == .value then
                let after := behind.skip
                if ends after.next then ((key, nothing), after)
                else
                  let (value, rest) := readNode steps false false after
                  ((key, value), rest)
              else
                let (value, rest) := behind.unwritten {}
                ((key, value), rest)
            else
              let (key, behind) := readNode steps false false a
              let (value, rest) := behind.unwritten {}
              ((key, value), rest)
          let (entries, tail) := readFlowEntries steps false rest
          (entry :: entries, tail)

end

/-! ## Documents -/

/-- The handles that every document knows. -/
def standardHandles : List (List Char × List Char) :=
  [(['!'], ['!']), (['!', '!'], "tag:yaml.org,2002:".toList)]

/-- The directives in front of a document: at most one version, which must be 1.1 or 1.2, and each
handle once. -/
def readDirectives (versioned : Bool) (handles : List (List Char × List Char)) :
    List Token → Option (List (List Char × List Char) × List Token)
  | .version major minor :: rest =>
      if versioned || major ≠ 1 || (minor ≠ 1 && minor ≠ 2) then none
      else readDirectives true handles rest
  | .tagHandle handle meaning :: rest =>
      if handles.any fun known => known.1 = handle then none
      else readDirectives versioned ((handle, meaning) :: handles) rest
  | tokens => some (handles, tokens)

/-- A token that cannot start the content of a document. -/
def endsDocument : Token → Bool
  | .version .. | .tagHandle .. | .documentStart | .documentEnd | .streamEnd => true
  | _ => false

/-- The first document of a text. -/
structure First where
  /-- Its node; none if the text holds no document. -/
  root : Option Node
  /-- Is there anything behind it? -/
  more : Bool

/-- Is there anything but ends of documents? -/
def hasMore (tokens : List Token) : Bool :=
  (tokens.dropWhile fun t => t == .documentEnd).headD .bad != .streamEnd

def first (tokens : List Token) : First :=
  let steps := 3 * tokens.length + 3
  let finish (read : Node × Ahead) : First := ⟨some read.1, hasMore read.2.tokens⟩
  match tokens with
  | .streamEnd :: _ => ⟨none, false⟩
  | .version .. :: _ | .tagHandle .. :: _ | .documentStart :: _ =>
      match readDirectives false [] tokens with
      | some (handles, .documentStart :: content) =>
          let a : Ahead := { tokens := content, handles := handles ++ standardHandles }
          if endsDocument a.next then finish (nothing, a) else finish (readNode steps true false a)
      | _ => ⟨some .broken, true⟩
  | _ => finish (readNode steps true false { tokens, handles := standardHandles })

def ofText (text : String) : First := first (Token.ofText text)

end Node

end LayeredConfig.Yaml
