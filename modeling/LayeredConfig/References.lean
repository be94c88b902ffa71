import LayeredConfig.Reading
import LayeredConfig.Text.Cut

/-!
# References to variables in text

Text may refer to variables as `${NAME}` or `$NAME`.  One pass from the left
cuts it into literal pieces and references; each reference is then replaced by
the value of its variable, or by nothing.  A value is not scanned again.
-/

namespace LayeredConfig

open Text

namespace Reference

/-- A stretch of text: as it is, or the name of a variable. -/
inductive Piece where
  | literal (c : Char)
  | name (name : String)
  deriving DecidableEq, Repr

def opensName (c : Char) : Bool :=
  c.isAlpha || c = '_'

def inName (c : Char) : Bool :=
  c.isAlphanum || c = '_'

/-- The longest name at the front of the text. -/
def readName (cs : List Char) : Option (List Char × List Char) :=
  match cs with
  | c :: _ => if opensName c then some (cs.takeWhile inName, cs.dropWhile inName) else none
  | [] => none

/-- The reference behind a dollar sign. -/
def read (cs : List Char) : Option (String × List Char) :=
  match cs with
  | '\x7b' :: inside =>
      match readName inside with
      | some (name, '\x7d' :: rest) => some (String.ofList name, rest)
      | _ => none
  | _ => (readName cs).map fun (name, rest) => (String.ofList name, rest)

def pieces (cs : List Char) : List Piece :=
  match cs with
  | [] => []
  | '$' :: rest =>
      match read rest with
      | some (name, after) =>
          if _shorter : after.length < rest.length then .name name :: pieces after
          else .literal '$' :: pieces rest
      | none => .literal '$' :: pieces rest
  | c :: rest => .literal c :: pieces rest
termination_by cs.length

def fill : List Piece → Reading (List Char)
  | [] => .done []
  | .literal c :: rest => do
      let filled ← fill rest
      return c :: filled
  | .name name :: rest => do
      let value ← Reading.ask name
      let filled ← fill rest
      return (value.getD "").toList ++ filled

end Reference

def expand (text : String) : Reading String := do
  let filled ← Reference.fill (Reference.pieces text.toList)
  return String.ofList filled

end LayeredConfig
