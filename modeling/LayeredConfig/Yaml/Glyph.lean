/-!
# Characters with their place

A YAML text is read as a list of glyphs: characters with the line and column in
which they stand.  Every spelling of a line break is one glyph, and a sentinel
closes the list, so looking ahead never runs out.
-/

namespace LayeredConfig.Yaml

/-- A character and its place; `index` counts the characters in front of it. -/
structure Glyph where
  char : Char
  index : Nat
  line : Nat
  column : Nat
  deriving Repr

/-- The character that closes every text. -/
def sentinel : Char := '\x00'

/-- May the character stand in a text at all? -/
def isPrintable (c : Char) : Bool :=
  let n := c.toNat
  n == 0x09 || n == 0x0A || n == 0x0D || (0x20 ≤ n && n ≤ 0x7E) || n == 0x85 ||
    (0xA0 ≤ n && n ≤ 0xD7FF) || (0xE000 ≤ n && n ≤ 0xFFFD) || 0x10000 ≤ n

def isLineFeed (c : Char) : Bool :=
  c == '\n' || c == '\r' || c.toNat == 0x85

def isSeparatorBreak (c : Char) : Bool :=
  c.toNat == 0x2028 || c.toNat == 0x2029

def isBreak (c : Char) : Bool := c == '\n' || isSeparatorBreak c

def isSpace (c : Char) : Bool := c == ' ' || c == '\t'

def endsLine (c : Char) : Bool := isBreak c || c == sentinel

/-- A space, a tab, a line break or the end of the text. -/
def endsWord (c : Char) : Bool := isSpace c || endsLine c

/-- A letter, a digit, an underscore or a hyphen. -/
def isWordChar (c : Char) : Bool := c.isAlphanum || c == '_' || c == '-'

namespace Glyph

def number (index line column : Nat) : List Char → List Glyph
  | [] => [{ char := sentinel, index, line, column }]
  | '\r' :: '\n' :: rest =>
      { char := '\n', index, line, column } :: number (index + 2) (line + 1) 0 rest
  | c :: rest =>
      if isLineFeed c then
        { char := '\n', index, line, column } :: number (index + 1) (line + 1) 0 rest
      else if isSeparatorBreak c then
        { char := c, index, line, column } :: number (index + 1) (line + 1) 0 rest
      else { char := c, index, line, column } :: number (index + 1) line (column + 1) rest

/-- The glyphs of a text; a byte order mark in front does not count. -/
def ofText (text : String) : Option (List Glyph) :=
  let cs := match text.toList with
    | c :: rest => if c.toNat == 0xFEFF then rest else c :: rest
    | [] => []
  if cs.all isPrintable then some (number 0 0 0 cs) else none

end Glyph

def peek : List Glyph → Char
  | g :: _ => g.char
  | [] => sentinel

def peekAt (n : Nat) (gs : List Glyph) : Char := peek (gs.drop n)

/-- The column of the next character. -/
def column : List Glyph → Nat
  | g :: _ => g.column
  | [] => 0

/-- The characters up to the first that fails a test, and the rest. -/
def spanChars (test : Char → Bool) (gs : List Glyph) : List Char × List Glyph :=
  ((gs.takeWhile fun g => test g.char).map Glyph.char, gs.dropWhile fun g => test g.char)

def skipChars (test : Char → Bool) (gs : List Glyph) : List Glyph :=
  gs.dropWhile fun g => test g.char

/-- Three equal characters at the start of a line, alone as a word. -/
def atMark (c : Char) (gs : List Glyph) : Bool :=
  column gs == 0 && peek gs == c && peekAt 1 gs == c && peekAt 2 gs == c && endsWord (peekAt 3 gs)

/-- The mark of a document's start or end. -/
def atDocumentMark (gs : List Glyph) : Bool :=
  atMark '-' gs || atMark '.' gs

end LayeredConfig.Yaml
