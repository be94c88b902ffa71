import LayeredConfig.Number.Integer
import LayeredConfig.Yaml.Fault
import LayeredConfig.Yaml.Glyph

/-!
# The text of a scalar

A scalar is written plain, between quotes, or as a block of indented lines.
Inside plain and quoted text a stretch of blanks with a line break in it folds:
one break becomes a space, further breaks stay.
-/

namespace LayeredConfig.Yaml

open Number

/-- How a scalar is written. -/
inductive Style where
  | plain | singleQuoted | doubleQuoted | literal | folded
  deriving DecidableEq, Repr

/-! ## Folding -/

/-- The blanks and breaks since the last visible character, the last ones first. -/
structure Gap where
  /-- Blanks on the line of that character. -/
  blanks : List Char := []
  /-- Has a line ended since? -/
  broken : Bool := false
  /-- The first break, unless it was escaped. -/
  first : Option Char := none
  /-- The breaks behind the first. -/
  more : List Char := []

namespace Gap

/-- One more blank; it counts only on the line of the last visible character. -/
def blank (g : Gap) (c : Char) : Gap :=
  if g.broken then g else { g with blanks := c :: g.blanks }

def lineBreak (g : Gap) (c : Char) : Gap :=
  if g.broken then { g with more := c :: g.more }
  else { blanks := [], broken := true, first := some c }

def text (g : Gap) : List Char :=
  if g.broken then
    match g.first with
    | some '\n' => if g.more.isEmpty then [' '] else g.more.reverse
    | some c => c :: g.more.reverse
    | none => g.more.reverse
  else g.blanks.reverse

end Gap

/-! ## Plain scalars -/

/-- A character that ends a plain scalar inside brackets. -/
def isFlowMark (c : Char) : Bool :=
  c == ',' || c == '[' || c == ']' || c == '\x7b' || c == '\x7d'

/-- A colon that is followed by a bracket, a comma or a question mark. -/
def colonBeforeFlowMark (gs : List Glyph) : Bool :=
  peek gs == ':' && (isFlowMark (peekAt 1 gs) || peekAt 1 gs == '?')

/-- Does a plain scalar end in front of the next character, which is no blank? -/
def endsPlain (flow : Bool) (gs : List Glyph) : Bool :=
  (peek gs == ':' && endsWord (peekAt 1 gs)) || (flow && isFlowMark (peek gs))

/-- What was read of a plain scalar: its text, the rest, and whether a line ended behind it. -/
structure PlainRead where
  text : List Char
  rest : List Glyph
  lineEnded : Bool

/-- Reads on in a plain scalar; `taken` holds the text so far, the last character first, `gap` what
came behind it, `inGap` whether the last character was a blank. -/
def plainFrom (flow : Bool) (indent : Nat) (taken : List Char) (gap : Gap) (inGap : Bool) :
    List Glyph → Except Fault PlainRead
  | [] => .ok ⟨taken.reverse, [], gap.broken⟩
  | g :: rest =>
      let here := g :: rest
      let stop : PlainRead := ⟨taken.reverse, here, gap.broken⟩
      if isSpace g.char then
        if gap.broken && g.column < indent && g.char == '\t' then .error .malformed
        else plainFrom flow indent taken (gap.blank g.char) true rest
      else if isBreak g.char then plainFrom flow indent taken (gap.lineBreak g.char) true rest
      else if g.char == sentinel then .ok stop
      else if inGap && ((!flow && g.column < indent) || atDocumentMark here || g.char == '#') then
        .ok stop
      else if flow && colonBeforeFlowMark here then .error .malformed
      else if endsPlain flow here then .ok stop
      else plainFrom flow indent (g.char :: gap.text.reverse ++ taken) {} false rest

def readPlain (flow : Bool) (indent : Nat) (gs : List Glyph) : Except Fault PlainRead :=
  plainFrom flow indent [] {} false gs

/-! ## Quoted scalars -/

def shortEscape : Char → Option Char
  | '0' => some '\x00'
  | 'a' => some '\x07'
  | 'b' => some '\x08'
  | 't' => some '\t'
  | '\t' => some '\t'
  | 'n' => some '\n'
  | 'v' => some '\x0b'
  | 'f' => some '\x0c'
  | 'r' => some '\r'
  | 'e' => some '\x1b'
  | ' ' => some ' '
  | '"' => some '"'
  | '/' => some '/'
  | '\\' => some '\\'
  | 'N' => some '\u0085'
  | '_' => some '\u00a0'
  | 'L' => some '\u2028'
  | 'P' => some '\u2029'
  | _ => none

/-- The number of hexadecimal digits behind an escape letter. -/
def escapeWidth : Char → Option Nat
  | 'x' => some 2
  | 'u' => some 4
  | 'U' => some 8
  | _ => none

/-- The character with a code point in hexadecimal digits. -/
def charOfDigits (digits : List Char) : Option Char := do
  let n ← readDigits 16 digits
  if n < 0xD800 ∨ (0xDFFF < n ∧ n ≤ 0x10FFFF) then some (Char.ofNat n) else none

/-- Reads on in a scalar between single quotes. -/
def singleQuotedFrom (taken : List Char) (gap : Gap) :
    List Glyph → Except Fault (List Char × List Glyph)
  | [] => .error .malformed
  | g :: rest =>
      if isSpace g.char then singleQuotedFrom taken (gap.blank g.char) rest
      else if isBreak g.char then singleQuotedFrom taken (gap.lineBreak g.char) rest
      else
        let full := gap.text.reverse ++ taken
        if g.char == sentinel || atDocumentMark (g :: rest) then .error .malformed
        else if g.char == '\'' then
          match rest with
          | q :: after =>
              if q.char == '\'' then singleQuotedFrom ('\'' :: full) {} after
              else .ok (full.reverse, rest)
          | [] => .ok (full.reverse, rest)
        else singleQuotedFrom (g.char :: full) {} rest

/-- Reads on in a scalar between double quotes. -/
def doubleQuotedFrom (taken : List Char) (gap : Gap) (gs : List Glyph) :
    Except Fault (List Char × List Glyph) :=
  match gs with
  | [] => .error .malformed
  | g :: rest =>
      if isSpace g.char then doubleQuotedFrom taken (gap.blank g.char) rest
      else if isBreak g.char then doubleQuotedFrom taken (gap.lineBreak g.char) rest
      else
        let full := gap.text.reverse ++ taken
        if g.char == sentinel || atDocumentMark (g :: rest) then .error .malformed
        else if g.char == '"' then .ok (full.reverse, rest)
        else if g.char == '\\' then
          match rest with
          | [] => .error .malformed
          | e :: after =>
              if isBreak e.char then doubleQuotedFrom full { broken := true } after
              else
                match shortEscape e.char, escapeWidth e.char with
                | some c, _ => doubleQuotedFrom (c :: full) {} after
                | none, some width =>
                    match charOfDigits ((after.take width).map Glyph.char) with
                    | some c => doubleQuotedFrom (c :: full) {} (after.drop width)
                    | none => .error .malformed
                | none, none => .error .malformed
        else doubleQuotedFrom (g.char :: full) {} rest
termination_by gs.length
decreasing_by all_goals simp_all; try omega

/-! ## Block scalars -/

/-- What becomes of the line breaks at the end of a block. -/
inductive Chomp where
  | strip | clip | keep
  deriving DecidableEq, Repr

structure BlockHeader where
  chomp : Chomp
  /-- Indentation given by a digit. -/
  step : Option Nat

def chompMark : Char → Option Chomp
  | '+' => some .keep
  | '-' => some .strip
  | _ => none

/-- An indentation digit; zero is none. -/
def stepDigit (gs : List Glyph) : Except Fault (Option Nat × List Glyph) :=
  if (peek gs).isDigit then
    if peek gs == '0' then .error .malformed
    else .ok (digitValue (peek gs), gs.drop 1)
  else .ok (none, gs)

/-- Steps over blanks and a comment to the end of the line, and over the break. -/
def finishLine (gs : List Glyph) : Except Fault (List Glyph) :=
  let blanks := skipChars isSpace gs
  let rest := if peek blanks == '#' then skipChars (fun c => !endsLine c) blanks else blanks
  if isBreak (peek rest) then .ok (rest.drop 1)
  else if peek rest == sentinel then .ok rest
  else .error .malformed

/-- Reads the header behind the bar or the bracket: a chomping mark and a digit in either order. -/
def readBlockHeader (gs : List Glyph) : Except Fault (BlockHeader × List Glyph) := do
  match chompMark (peek gs) with
  | some chomp => do
      let (step, rest) ← stepDigit (gs.drop 1)
      return (⟨chomp, step⟩, ← finishLine rest)
  | none => do
      let (step, rest) ← stepDigit gs
      match step, chompMark (peek rest) with
      | some _, some chomp => return (⟨chomp, step⟩, ← finishLine (rest.drop 1))
      | _, _ => return (⟨.clip, step⟩, ← finishLine rest)

/-- Steps over the empty lines in front of a block; `widest` is the largest column reached. -/
def leadingLines (indent : Option Nat) (breaks : List Char) (widest : Nat) :
    List Glyph → Except Fault (List Char × Nat × List Glyph)
  | [] => .ok (breaks, widest, [])
  | g :: rest =>
      let inside := match indent with
        | none => true
        | some n => g.column < n
      if inside && g.char == ' ' then leadingLines indent breaks widest rest
      else
        let reached := max widest g.column
        if inside && g.char == '\t' then .error .malformed
        else if isBreak g.char then leadingLines indent (g.char :: breaks) reached rest
        else .ok (breaks, reached, g :: rest)

/-- The lines of a block as far as they are read. -/
structure BlockRead where
  /-- Text, the last character first. -/
  taken : List Char := []
  /-- The break of the last line, if it had one. -/
  lastBreak : Option Char := none
  /-- The breaks of the empty lines behind it, the last one first. -/
  empties : List Char := []
  /-- Does the last line start with a blank? -/
  indented : Bool := false

/-- The text with the start of a new line, which may fold into the one in front. -/
def BlockRead.newLine (b : BlockRead) (isFolded : Bool) (startsBlank : Bool) : BlockRead :=
  let joined :=
    if isFolded && b.lastBreak == some '\n' && !b.indented && !startsBlank then
      if b.empties.isEmpty then ' ' :: b.taken else b.taken
    else match b.lastBreak with
      | some c => c :: b.taken
      | none => b.taken
  { taken := b.empties ++ joined, indented := startsBlank }

def blockFrom (isFolded : Bool) (indent : Nat) (inLine : Bool) (b : BlockRead) :
    List Glyph → Except Fault (BlockRead × List Glyph)
  | [] => .ok (b, [])
  | g :: rest =>
      if inLine then
        if isBreak g.char then
          blockFrom isFolded indent false { b with lastBreak := some g.char } rest
        else if g.char == sentinel then .ok (b, g :: rest)
        else blockFrom isFolded indent true { b with taken := g.char :: b.taken } rest
      else if g.column < indent && g.char == ' ' then blockFrom isFolded indent false b rest
      else if g.column < indent && g.char == '\t' then .error .malformed
      else if isBreak g.char then
        blockFrom isFolded indent false { b with empties := g.char :: b.empties } rest
      else if g.column == indent && g.char != sentinel then
        let next := b.newLine isFolded (isSpace g.char)
        blockFrom isFolded indent true { next with taken := g.char :: next.taken } rest
      else .ok (b, g :: rest)

def BlockRead.text (b : BlockRead) (chomp : Chomp) : List Char :=
  let last := b.lastBreak.toList
  (match chomp with
    | .strip => b.taken
    | .clip => last ++ b.taken
    | .keep => b.empties ++ last ++ b.taken).reverse

/-- Reads a block scalar behind its first character; `parent` is the column of the collection
around it, if there is one. -/
def readBlock (isFolded : Bool) (parent : Option Nat) (gs : List Glyph) :
    Except Fault (List Char × List Glyph) := do
  let (header, body) ← readBlockHeader gs
  let given := header.step.map fun n => (parent.getD 0) + n
  let (breaks, widest, rest) ← leadingLines given [] 0 body
  let least := match parent with
    | some column => column + 1
    | none => 1
  let indent := given.getD (max widest least)
  let (read, after) ← blockFrom isFolded indent false { empties := breaks } rest
  return (read.text header.chomp, after)

end LayeredConfig.Yaml
