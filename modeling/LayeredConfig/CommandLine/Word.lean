import LayeredConfig.Text.Cut

/-!
# The words of a command line

A word with two dashes in front is the long name of an option, and what stands
behind the first equals sign is its value.  A word with one dash in front is a
cluster of short names.  Two dashes alone end the options; one dash alone is a
word like any other.
-/

namespace LayeredConfig.CommandLine

open Text

/-- How a word reads where options may stand. -/
inductive Word where
  | endOfOptions
  | long (name : String) (value : Option String)
  | cluster (letters : List Char)
  | plain
  deriving DecidableEq, Repr

namespace Word

def readLong (cs : List Char) : Word :=
  match cutOnce '=' cs with
  | some (name, value) => .long (String.ofList name) (some (String.ofList value))
  | none => .long (String.ofList cs) none

def read (word : String) : Word :=
  match word.toList with
  | ['-', '-'] => .endOfOptions
  | '-' :: '-' :: rest => readLong rest
  | '-' :: c :: rest => .cluster (c :: rest)
  | _ => .plain

end Word

end LayeredConfig.CommandLine
