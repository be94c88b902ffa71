import LayeredConfig.Yaml.Node

/-!
# Documents as trees

The tree of a document is what is left when every alias is replaced by the node
it refers to.  Two bounds keep it finite: collections nest at most
`Tree.maxDepth` deep, and the aliases followed are at most a hundred times as
many as the nodes written.
-/

namespace LayeredConfig.Yaml

/-- A document without references. -/
inductive Tree where
  | scalar (tag : Option (List Char)) (text : List Char) (style : Style)
  | sequence (tag : Option (List Char)) (items : List Tree)
  | mapping (tag : Option (List Char)) (entries : List (Tree × Tree))
  | broken
  deriving Repr

namespace Node

mutual

/-- The nodes with an anchor, in the order in which they start. -/
def anchored (n : Node) : List (Nat × Node) :=
  let own (m : Marks) : List (Nat × Node) := (m.anchor.map fun id => (id, n)).toList
  match n with
  | .alias _ | .broken => []
  | .scalar marks _ _ => own marks
  | .sequence marks items => own marks ++ anchoredItems items
  | .mapping marks entries => own marks ++ anchoredEntries entries

def anchoredItems : List Node → List (Nat × Node)
  | [] => []
  | item :: rest => anchored item ++ anchoredItems rest

def anchoredEntries : List (Node × Node) → List (Nat × Node)
  | [] => []
  | (key, value) :: rest => anchored key ++ anchored value ++ anchoredEntries rest

end

mutual

/-- The number of starts and ends of nodes. -/
def size : Node → Nat
  | .alias _ | .scalar .. => 1
  | .broken => 0
  | .sequence _ items => 2 + sizeItems items
  | .mapping _ entries => 2 + sizeEntries entries

def sizeItems : List Node → Nat
  | [] => 0
  | item :: rest => size item + sizeItems rest

def sizeEntries : List (Node × Node) → Nat
  | [] => 0
  | (key, value) :: rest => size key + size value + sizeEntries rest

end

/-- The node that a number stands for: the last one that was given it. -/
def lookup (table : List (Nat × Node)) (id : Nat) : Option Node :=
  (table.reverse.find? fun known => known.1 = id).map (·.2)

/-- The node itself, or the one an alias refers to if another alias may be followed.  The state
counts the aliases followed. -/
def follow (table : List (Nat × Node)) (limit : Nat) (n : Node) : StateM Nat Node :=
  match n with
  | .alias id => do
      let followed ← get
      set (followed + 1)
      return if followed < limit then (lookup table id).getD .broken else .broken
  | other => return other

/-- The tree of a node in which collections nest at most `depth` deep. -/
def expand (table : List (Nat × Node)) (limit : Nat) : (depth : Nat) → Node → StateM Nat Tree
  | 0, n => do
      match ← follow table limit n with
      | .scalar marks text style => return .scalar marks.tag text style
      | _ => return .broken
  | depth + 1, n => do
      match ← follow table limit n with
      | .scalar marks text style => return .scalar marks.tag text style
      | .sequence marks items =>
          return .sequence marks.tag (← items.mapM (expand table limit depth))
      | .mapping marks entries =>
          let trees ← entries.mapM fun (key, value) => do
            let key ← expand table limit depth key
            let value ← expand table limit depth value
            return (key, value)
          return .mapping marks.tag trees
      | _ => return .broken

end Node

namespace Tree

/-- How deep collections may nest. -/
def maxDepth : Nat := 128

def ofNode (n : Node) : Tree :=
  ((Node.expand (Node.anchored n) (100 * n.size) maxDepth n).run 0).1

end Tree

/-- The first document of a text as a tree. -/
structure Document where
  /-- None if the text holds no document. -/
  root : Option Tree
  /-- Is there anything behind it? -/
  more : Bool

def Document.ofText (text : String) : Document :=
  let first := Node.ofText text
  ⟨first.root.map Tree.ofNode, first.more⟩

end LayeredConfig.Yaml
