import LayeredConfig.Yaml.Token

/-!
# The tokens of a text

One pass from the left turns a text into tokens.  What a line break and a colon
mean depends on the indentation, on the open brackets, and on whether the last
node may still turn out to be a key.  A node that does gets its `key` token, and
a new mapping its `blockMapping` token, in front of it afterwards.

If the text is malformed, `bad` follows the tokens that were settled by then: a
token waits, and all behind it wait, as long as it may still turn out to be a
key.
-/

namespace LayeredConfig.Yaml

/-- A node that may turn out to be a key: where it starts, in the tokens and in the text. -/
structure PossibleKey where
  /-- It stands at the indentation of its block, where only a key can stand. -/
  required : Bool
  position : Nat
  line : Nat
  index : Nat
  column : Nat

/-- What the pass knows at a place in the text. -/
structure Scan where
  /-- The tokens so far, the last one first. -/
  tokens : List Token := []
  count : Nat := 0
  /-- The columns of the open blocks, the innermost first. -/
  blocks : List Nat := []
  /-- The open brackets. -/
  flow : Nat := 0
  /-- May a key start here? -/
  keyAllowed : Bool := true
  /-- The possible key outside all brackets, and the ones inside each open bracket. -/
  keys : List (Option PossibleKey) := [none]

namespace Scan

/-- The next state, unless the text is malformed here. -/
abbrev Step := Option Scan

def emit (l : Scan) (t : Token) : Scan :=
  { l with tokens := t :: l.tokens, count := l.count + 1 }

/-- Puts a token in front of the one at a position. -/
def insertAt (l : Scan) (position : Nat) (t : Token) : Scan :=
  let behind := l.count - position
  { l with tokens := l.tokens.take behind ++ t :: l.tokens.drop behind, count := l.count + 1 }

def indent (l : Scan) : Option Nat := l.blocks.head?

/-- Is the column to the right of the innermost block? -/
def isDeeper (l : Scan) (column : Nat) : Bool :=
  match l.indent with
  | some n => n < column
  | none => true

/-- Ends the blocks to the right of a column; `none` is to the left of every column. -/
def closeBlocks (l : Scan) (column : Option Nat) : Scan :=
  if 0 < l.flow then l
  else
    let right (n : Nat) : Bool := match column with
      | some c => c < n
      | none => true
    let closed := (l.blocks.takeWhile right).length
    { l with
      blocks := l.blocks.drop closed
      tokens := List.replicate closed .blockEnd ++ l.tokens
      count := l.count + closed }

/-- Opens a block at a column if it lies to the right; its token goes to the end or to a
position. -/
def openBlock (l : Scan) (column : Nat) (position : Option Nat) (t : Token) : Scan :=
  if l.flow = 0 && l.isDeeper column then
    let opened := { l with blocks := column :: l.blocks }
    match position with
    | some p => opened.insertAt p t
    | none => opened.emit t
  else l

/-- Gives up the innermost possible key, which must not be a required one. -/
def dropKey (l : Scan) : Step :=
  match l.keys with
  | some k :: outer => if k.required then none else some { l with keys := none :: outer }
  | _ => some l

/-- The node that starts here may be a key. -/
def saveKey (l : Scan) (g : Glyph) : Step :=
  if l.keyAllowed then do
    let cleared ← l.dropKey
    let k : PossibleKey :=
      { required := l.flow = 0 && l.indent == some g.column
        position := l.count, line := g.line, index := g.index, column := g.column }
    return { cleared with keys := some k :: cleared.keys.drop 1 }
  else some l

/-- A key stands on one line and takes at most 1024 characters. -/
def isStale (g : Glyph) (k : PossibleKey) : Bool :=
  k.line < g.line || k.index + 1024 < g.index

/-- Gives up the possible keys that are too far away. -/
def dropStale (l : Scan) (g : Glyph) : Step :=
  if l.keys.any fun k => match k with
      | some k => isStale g k && k.required
      | none => false
  then none
  else some { l with keys := l.keys.map fun k => k.filter fun k => !isStale g k }

/-- Is a node left behind that had to be a key? -/
def missesKey (l : Scan) (gs : List Glyph) : Bool :=
  gs.head?.any fun g => (l.dropStale g).isNone

/-- The tokens that are settled at a place in the text, the last one first. -/
def settled (l : Scan) (gs : List Glyph) : List Token :=
  let waiting := l.keys.filterMap fun k =>
    (k.filter fun k => !(gs.head?.any fun g => isStale g k)).map PossibleKey.position
  match waiting.min? with
  | some position => l.tokens.drop (l.count - position)
  | none => l.tokens

/-- Steps over blanks, comments and line breaks.  A tab is a blank only where no key can start; a
byte-order mark may start any line. -/
def skipToToken (l : Scan) : List Glyph → Scan × List Glyph
  | [] => (l, [])
  | g :: rest => skip l.keyAllowed false (g :: rest)
where
  /-- `comment` holds inside a comment. -/
  skip (allowed comment : Bool) : List Glyph → Scan × List Glyph
    | [] => ({ l with keyAllowed := allowed }, [])
    | g :: rest =>
        if isBreak g.char then skip (allowed || l.flow = 0) false rest
        else if comment && g.char != sentinel then skip allowed true rest
        else if g.char == ' ' || ((0 < l.flow || !allowed) && g.char == '\t') then
          skip allowed false rest
        else if g.column == 0 && g.char == '\ufeff' then skip allowed false rest
        else if g.char == '#' then skip allowed true rest
        else ({ l with keyAllowed := allowed }, g :: rest)

/-- A mark that stands outside all blocks. -/
def outerMark (l : Scan) : Step := do
  let closed ← (l.closeBlocks none).dropKey
  return { closed with keyAllowed := false }

def openFlow (l : Scan) (g : Glyph) (t : Token) : Step := do
  let saved ← l.saveKey g
  return ({ saved with keys := none :: saved.keys, flow := saved.flow + 1,
                       keyAllowed := true }).emit t

def closeFlow (l : Scan) (t : Token) : Step := do
  let cleared ← l.dropKey
  let outer := if 0 < cleared.flow then cleared.keys.drop 1 else cleared.keys
  return ({ cleared with keys := outer, flow := cleared.flow - 1, keyAllowed := false }).emit t

def flowEntry (l : Scan) : Step := do
  return ({ ← l.dropKey with keyAllowed := true }).emit .flowEntry

/-- A hyphen in front of an entry. -/
def blockEntry (l : Scan) (g : Glyph) : Step := do
  if l.flow = 0 && !l.keyAllowed then none
  else
    let opened := l.openBlock g.column none .blockSequence
    return ({ ← opened.dropKey with keyAllowed := true }).emit .blockEntry

/-- A question mark in front of a key. -/
def explicitKey (l : Scan) (g : Glyph) : Step := do
  if l.flow = 0 && !l.keyAllowed then none
  else
    let opened := l.openBlock g.column none .blockMapping
    return ({ ← opened.dropKey with keyAllowed := l.flow = 0 }).emit .key

/-- A colon: behind a possible key that node is one. -/
def valueMark (l : Scan) (g : Glyph) : Step :=
  match l.keys with
  | some k :: outer =>
      let keyed := ({ l with keys := none :: outer, keyAllowed := false }).insertAt k.position .key
      some ((keyed.openBlock k.column (some k.position) .blockMapping).emit .value)
  | _ =>
      if l.flow = 0 && !l.keyAllowed then none
      else
        let opened := l.openBlock g.column none .blockMapping
        some (({ opened with keyAllowed := l.flow = 0 }).emit .value)

def startsPlain (l : Scan) (gs : List Glyph) : Bool :=
  let c := peek gs
  let marks := "-?:,[]\x7b\x7d#&*!|>'\"%@".toList
  !(endsWord c || marks.contains c || c.toNat == 0x60) ||
    (c == '-' && !isSpace (peekAt 1 gs)) ||
    (l.flow = 0 && (c == '?' || c == ':') && !endsWord (peekAt 1 gs))

/-- The token at the front of the text, which is neither a blank nor the end. -/
def next (l : Scan) (g : Glyph) (rest : List Glyph) : Option (Scan × List Glyph) := do
  let gs := g :: rest
  let follows := endsWord (peek rest)
  if g.column == 0 && g.char == '%' then
    let l ← l.outerMark
    let (token, after) ← Except.toOption (readDirective rest)
    return (l.emit token, after)
  else if atMark '-' gs then return ((← l.outerMark).emit .documentStart, gs.drop 3)
  else if atMark '.' gs then return ((← l.outerMark).emit .documentEnd, gs.drop 3)
  else if g.char == '[' then return (← l.openFlow g .flowSequence, rest)
  else if g.char == '\x7b' then return (← l.openFlow g .flowMapping, rest)
  else if g.char == ']' then return (← l.closeFlow .flowSequenceEnd, rest)
  else if g.char == '\x7d' then return (← l.closeFlow .flowMappingEnd, rest)
  else if g.char == ',' then return (← l.flowEntry, rest)
  else if g.char == '-' && follows then return (← l.blockEntry g, rest)
  else if g.char == '?' && (0 < l.flow || follows) then return (← l.explicitKey g, rest)
  else if g.char == ':' && (0 < l.flow || follows) then return (← l.valueMark g, rest)
  else if g.char == '*' || g.char == '&' then
    let l := { ← l.saveKey g with keyAllowed := false }
    let (name, after) ← Except.toOption (readAnchor rest)
    return (l.emit (if g.char == '*' then .alias name else .anchor name), after)
  else if g.char == '!' then
    let l := { ← l.saveKey g with keyAllowed := false }
    let (name, after) ← Except.toOption (readTag (0 < l.flow) gs)
    return (l.emit (.tag name), after)
  else if (g.char == '|' || g.char == '>') && l.flow = 0 then
    let l := { ← l.dropKey with keyAllowed := true }
    let (text, after) ← Except.toOption (readBlock (g.char == '>') l.indent rest)
    return (l.emit (.scalar text (if g.char == '>' then .folded else .literal)), after)
  else if g.char == '\'' then
    let l := { ← l.saveKey g with keyAllowed := false }
    let (text, after) ← Except.toOption (singleQuotedFrom [] {} rest)
    return (l.emit (.scalar text .singleQuoted), after)
  else if g.char == '"' then
    let l := { ← l.saveKey g with keyAllowed := false }
    let (text, after) ← Except.toOption (doubleQuotedFrom [] {} rest)
    return (l.emit (.scalar text .doubleQuoted), after)
  else if l.startsPlain gs then
    let l := { ← l.saveKey g with keyAllowed := false }
    let indent := match l.indent with
      | some n => n + 1
      | none => 0
    let plain ← Except.toOption (readPlain (0 < l.flow) indent gs)
    return (({ l with keyAllowed := plain.lineEnded }).emit (.scalar plain.text .plain), plain.rest)
  else none

/-- The end of the text: every block ends, and no required key may be left. -/
def finish (l : Scan) : Option (List Token) := do
  if l.keys.any fun k => k.any PossibleKey.required then none
  else return ((← l.outerMark).emit .streamEnd).tokens

/-- The tokens from here on, all in reverse order; every step takes a character at least. -/
def scanFrom (l : Scan) (gs : List Glyph) : List Token :=
  let (skipped, text) := l.skipToToken gs
  let stopped := .bad :: l.settled gs
  match text with
  | [] => skipped.finish.getD stopped
  | g :: rest =>
      match skipped.dropStale g with
      | none => stopped
      | some fresh =>
          let l := fresh.closeBlocks (some g.column)
          if g.char == sentinel then l.finish.getD stopped
          else
            match l.next g rest with
            | none => stopped
            | some (next, after) =>
                if next.missesKey after then stopped
                else if _shorter : after.length < gs.length then scanFrom next after
                else stopped
termination_by gs.length

end Scan

def Token.ofText (text : String) : List Token :=
  match Glyph.ofText text with
  | none => [.bad]
  | some gs => (Scan.scanFrom {} gs).reverse

end LayeredConfig.Yaml
