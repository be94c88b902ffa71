import LayeredConfig.Number.Decimal

/-!
# JSON values and their text

`Json.write` is the compact text, `Json.pretty` the one with two blanks per
level.  An object keeps its members in the order given; `Json.put` keeps the
members of an object sorted by name.
-/

namespace LayeredConfig

open Number

inductive Json where
  | null
  | bool (b : Bool)
  | int (i : Int)
  | float (x : Binary64)
  | text (s : String)
  | list (items : List Json)
  | object (members : List (String × Json))
  deriving Repr

namespace Json

/-- One character inside a string. -/
def writeChar (c : Char) : List Char :=
  if c = '"' then ['\\', '"']
  else if c = '\\' then ['\\', '\\']
  else if c = '\n' then ['\\', 'n']
  else if c = '\r' then ['\\', 'r']
  else if c = '\t' then ['\\', 't']
  else if c = '\x08' then ['\\', 'b']
  else if c = '\x0c' then ['\\', 'f']
  else if c.toNat < 0x20 then
    let digits := Nat.toDigits 16 c.toNat
    '\\' :: 'u' :: (List.replicate (4 - digits.length) '0' ++ digits)
  else [c]

/-- A string between double quotes. -/
def writeText (s : String) : String :=
  String.ofList ('"' :: s.toList.flatMap writeChar ++ ['"'])

/-- Numbers are positional from `1e-5` up to sixteen digits and keep `.0`; infinities and the
missing number are `null`. -/
def numberLayout : Layout :=
  { highest := some 16, zeros := some 4, keepsFraction := true, plus := true,
    infinity := "null", nan := "null" }

def writeFloat (x : Binary64) : String :=
  if x.isFinite then String.ofList (numberLayout.write x) else "null"

mutual

/-- The compact text. -/
def write : Json → String
  | .null => "null"
  | .bool b => if b then "true" else "false"
  | .int i => toString i
  | .float x => writeFloat x
  | .text s => writeText s
  | .list items => "[" ++ ",".intercalate (writeItems items) ++ "]"
  | .object members => "\x7b" ++ ",".intercalate (writeMembers members) ++ "\x7d"

def writeItems : List Json → List String
  | [] => []
  | item :: rest => write item :: writeItems rest

def writeMembers : List (String × Json) → List String
  | [] => []
  | (name, value) :: rest => (writeText name ++ ":" ++ write value) :: writeMembers rest

end

/-- The blanks in front of a line at a level. -/
def indentation (level : Nat) : String :=
  String.ofList (List.replicate (2 * level) ' ')

/-- Lines between two brackets, one level in. -/
def block (level : Nat) (opening closing : String) (lines : List String) : String :=
  opening ++ "\n" ++
    ",\n".intercalate (lines.map fun line => indentation (level + 1) ++ line) ++
    "\n" ++ indentation level ++ closing

mutual

/-- The text with line breaks, at a level. -/
def prettyAt (level : Nat) : Json → String
  | .list [] => "[]"
  | .list (item :: rest) => block level "[" "]" (prettyItems (level + 1) (item :: rest))
  | .object [] => "\x7b\x7d"
  | .object (member :: rest) =>
      block level "\x7b" "\x7d" (prettyMembers (level + 1) (member :: rest))
  | other => write other

def prettyItems (level : Nat) : List Json → List String
  | [] => []
  | item :: rest => prettyAt level item :: prettyItems level rest

def prettyMembers (level : Nat) : List (String × Json) → List String
  | [] => []
  | (name, value) :: rest =>
      (writeText name ++ ": " ++ prettyAt level value) :: prettyMembers level rest

end

/-- The text with two blanks per level. -/
def pretty (value : Json) : String := prettyAt 0 value

/-- Puts a value under a name among members sorted by name. -/
def put (name : String) (value : Json) : List (String × Json) → List (String × Json)
  | [] => [(name, value)]
  | (n, v) :: rest =>
      if n = name then (name, value) :: rest
      else if name < n then (name, value) :: (n, v) :: rest
      else (n, v) :: put name value rest

def member (name : String) (members : List (String × Json)) : Option Json :=
  (members.find? fun m => m.1 = name).map (·.2)

end Json

end LayeredConfig
