import LayeredConfig.Json.Value
import LayeredConfig.Yaml.Glyph
import LayeredConfig.Yaml.Value

/-!
# Values in block style

A value written as one YAML document: a key or an item per line, two blanks per
level, empty collections as `[]` and `\x7b\x7d`.  The items of a list stand at the
level of the key of the list.  Text is written plain where it reads back as the
same text, between single quotes where plain text would be something else,
between double quotes where it holds what only an escape can write, and line by
line where it has line feeds.
-/

namespace LayeredConfig.Yaml.Block

/-! ## What a text allows -/

/-- Whether two neighbouring characters pass one test each. -/
def hasPair (first second : Char → Bool) : List Char → Bool
  | a :: b :: rest => (first a && second b) || hasPair first second (b :: rest)
  | _ => false

def isBlank (c : Char) : Bool := c = ' '

/-- The characters that only an escape can write. -/
def isSpecial (c : Char) : Bool :=
  let n := c.toNat
  !(c = '\n' || (0x20 ≤ n && n ≤ 0x7E) || (0xA0 ≤ n && n ≠ 0xFEFF && n ≠ 0xFFFE && n ≠ 0xFFFF))

def startMarks : List Char := "#,[]\x7b\x7d&*!|>'\"%@\x60".toList

/-- Whether the start of a text would be read as a mark. -/
def startsWithMark : List Char → Bool
  | [] => false
  | c :: rest =>
      startMarks.contains c || ((c = '?' || c = ':' || c = '-') && rest.head?.all endsWord) ||
        (c :: rest.take 2 = ['-', '-', '-']) || (c :: rest.take 2 = ['.', '.', '.'])

/-- Whether something inside a text would be read as a mark. -/
def holdsMark (cs : List Char) : Bool :=
  hasPair (· = ':') endsWord cs || hasPair endsWord (· = '#') cs || cs.getLast? = some ':'

/-- Whether a blank stands behind or in front of a break, or anything needs an escape. -/
def needsEscape (cs : List Char) : Bool :=
  cs.any isSpecial || hasPair isBlank isBreak cs

def allowsPlain (cs : List Char) : Bool :=
  !cs.any isBreak && !needsEscape cs && !startsWithMark cs && !holdsMark cs &&
    !cs.head?.any isBlank && !cs.getLast?.any isBlank

def allowsSingle (cs : List Char) : Bool :=
  !needsEscape cs && !hasPair isBreak isBlank cs

def allowsLines (cs : List Char) : Bool :=
  !needsEscape cs && !cs.getLast?.any isBlank

/-- Whether plain text would be read as something else than text. -/
def isTyped (cs : List Char) : Bool :=
  match Value.ofPlain cs with
  | .ok (.text _) => hasLeadingZero cs
  | _ => true

/-! ## Text -/

/-- Lines with blanks in front of each that is not empty.  `fresh` says whether the text starts a
line. -/
def indented (indent : Nat) : (fresh : Bool) → List Char → List Char
  | _, [] => []
  | fresh, c :: rest =>
      if isBreak c then c :: indented indent true rest
      else (if fresh then List.replicate indent ' ' else []) ++ c :: indented indent false rest

/-- Text between single quotes. -/
def single (indent : Nat) (cs : List Char) : List Char :=
  let doubled := cs.flatMap fun c => if c = '\'' then ['\'', '\''] else [c]
  let closing := if cs.getLast?.any isBreak then List.replicate indent ' ' else []
  '\'' :: indented indent false doubled ++ closing ++ ['\'']

/-- A number in upper-case hexadecimal digits of a fixed count. -/
def hexDigits (width n : Nat) : List Char :=
  let digits := (Nat.toDigits 16 n).map Char.toUpper
  List.replicate (width - digits.length) '0' ++ digits

def escapeLetter (c : Char) : Option Char :=
  match c with
  | '\x00' => some '0'
  | '\x07' => some 'a'
  | '\x08' => some 'b'
  | '\t' => some 't'
  | '\n' => some 'n'
  | '\x0b' => some 'v'
  | '\x0c' => some 'f'
  | '\r' => some 'r'
  | '\x1b' => some 'e'
  | '"' => some '"'
  | '\\' => some '\\'
  | '\u0085' => some 'N'
  | '\u2028' => some 'L'
  | '\u2029' => some 'P'
  | _ => none

/-- One character between double quotes. -/
def doubleChar (c : Char) : List Char :=
  match escapeLetter c with
  | some letter => ['\\', letter]
  | none =>
      let n := c.toNat
      if !isSpecial c then [c]
      else if n ≤ 0xFF then '\\' :: 'x' :: hexDigits 2 n
      else if n ≤ 0xFFFF then '\\' :: 'u' :: hexDigits 4 n
      else '\\' :: 'U' :: hexDigits 8 n

def double (cs : List Char) : List Char := '"' :: cs.flatMap doubleChar ++ ['"']

/-- What stands behind the bar of text written line by line: the step where the text does not show
it, and what becomes of the breaks at the end. -/
def hints (cs : List Char) : List Char :=
  let step := if cs.head?.any fun c => isBlank c || isBreak c then ['2'] else []
  let chomp := match cs.reverse with
    | last :: before =>
        if !isBreak last then ['-'] else if before.head?.all isBreak then ['+'] else []
    | [] => ['-']
  step ++ chomp

/-- Text written line by line. -/
def lines (indent : Nat) (cs : List Char) : List Char :=
  '|' :: hints cs ++ '\n' :: indented indent true cs

def quotedText (indent : Nat) (cs : List Char) : List Char :=
  if allowsSingle cs then single indent cs else double cs

def text (indent : Nat) (cs : List Char) : List Char :=
  if cs.contains '\n' then if allowsLines cs then lines indent cs else double cs
  else if !isTyped cs && allowsPlain cs then cs
  else quotedText indent cs

/-! ## Values -/

/-- The longest key in bytes that stands in front of its colon on one line. -/
def longestKey : Nat := 128

/-- Whether a key stands in front of its colon on one line: it has no break, not even an escaped
one. -/
def isSimpleKey (name : String) : Bool :=
  !(name.toList.any fun c => isBreak c || isLineFeed c) && name.utf8ByteSize ≤ longestKey

def pad (indent : Nat) : List Char := List.replicate indent ' '

/-- A line ends with a break, unless the text brought one. -/
def ended (cs : List Char) : List Char :=
  if cs.getLast?.any isBreak then cs else cs ++ ['\n']

/-- Numbers are written as in JSON, but an exponent has no plus. -/
def numberLayout : Number.Layout := { Json.numberLayout with plus := false }

/-- A value that is no filled collection. -/
def leaf (indent : Nat) : Json → List Char
  | .text s => text indent s.toList
  | .float x => if x.isFinite then numberLayout.write x else "null".toList
  | .list _ => "[]".toList
  | .object _ => "\x7b\x7d".toList
  | other => other.write.toList

/-- A key with its mark. -/
def key (indent : Nat) (name : String) : List Char :=
  if isSimpleKey name then pad indent ++ text (indent + 2) name.toList ++ [':']
  else pad indent ++ '?' :: ' ' :: ended (text (indent + 2) name.toList) ++ pad indent ++ [':']

mutual

/-- What stands behind the colon of a key at a level. -/
def below (indent : Nat) : Json → List Char
  | .list (item :: rest) => '\n' :: items indent (item :: rest)
  | .object (member :: rest) => '\n' :: members (indent + 2) (member :: rest)
  | other => ' ' :: ended (leaf (indent + 2) other)

/-- What stands behind the dash of an item at a level, or behind a colon on a line of its own. -/
def inItem (indent : Nat) : Json → List Char
  | .list (item :: rest) => (items (indent + 2) (item :: rest)).drop (indent + 2)
  | .object (member :: rest) => (members (indent + 2) (member :: rest)).drop (indent + 2)
  | other => ended (leaf (indent + 2) other)

def items (indent : Nat) : List Json → List Char
  | [] => []
  | item :: rest => pad indent ++ '-' :: ' ' :: inItem indent item ++ items indent rest

def members (indent : Nat) : List (String × Json) → List Char
  | [] => []
  | (name, value) :: rest =>
      let written := if isSimpleKey name then below indent value else ' ' :: inItem indent value
      key indent name ++ written ++ members indent rest

end

def document : Json → String
  | .list (item :: rest) => String.ofList (items 0 (item :: rest))
  | .object (member :: rest) => String.ofList (members 0 (member :: rest))
  | other => String.ofList (ended (leaf 2 other))

end LayeredConfig.Yaml.Block
