import LayeredConfig.Yaml.Scalar

/-!
# Tokens

The marks and scalars of a YAML text, with the indentation made explicit:
`blockMapping`, `blockSequence` and `blockEnd` say where a block starts and
ends, `key` stands in front of every key.  This module reads the tokens that
stand alone: anchors, tags and directives.
-/

namespace LayeredConfig.Yaml

open Number

/-- A tag as written: a handle that stands for a text, and what follows it. -/
structure TagName where
  handle : List Char
  suffix : List Char
  deriving DecidableEq, Repr

/-- A unit of a YAML text. -/
inductive Token where
  | streamEnd
  | version (major minor : Nat)
  | tagHandle (handle : List Char) (meaning : List Char)
  | documentStart
  | documentEnd
  | blockSequence
  | blockMapping
  | blockEnd
  | flowSequence
  | flowSequenceEnd
  | flowMapping
  | flowMappingEnd
  | blockEntry
  | flowEntry
  | key
  | value
  | alias (name : List Char)
  | anchor (name : List Char)
  | tag (name : TagName)
  | scalar (text : List Char) (style : Style)
  /-- No token: the text is malformed here. -/
  | bad
  deriving DecidableEq, Repr

/-! ## Anchors -/

/-- May the character stand behind the name of an anchor? -/
def endsAnchor (c : Char) : Bool :=
  endsWord c || c == '?' || c == ':' || c == ',' || c == ']' || c == '\x7d' || c == '%' ||
    c == '@' || c.toNat == 0x60

def readAnchor (gs : List Glyph) : Except Fault (List Char × List Glyph) :=
  let (name, rest) := spanChars isWordChar gs
  if name.isEmpty || !endsAnchor (peek rest) then .error .malformed else .ok (name, rest)

/-! ## Tags -/

/-- May the character stand in a tag?  Brackets and commas only in a `verbatim` one. -/
def isTagChar (verbatim : Bool) (c : Char) : Bool :=
  isWordChar c || ";/?:@&=+$.%!~*'()".toList.contains c ||
    (verbatim && (c == ',' || c == '[' || c == ']'))

/-- One byte written as a percent sign and two digits. -/
def escapedByte : List Glyph → Option (Nat × List Glyph)
  | p :: a :: b :: rest =>
      if p.char == '%' then (readDigits 16 [a.char, b.char]).map fun n => (n, rest) else none
  | _ => none

/-- The further bytes of a character: six bits each, the first two are `10`. -/
def furtherBytes : (count : Nat) → (high : Nat) → List Glyph → Option (Nat × List Glyph)
  | 0, high, gs => some (high, gs)
  | count + 1, high, gs => do
      let (byte, rest) ← escapedByte gs
      if byte / 64 = 2 then furtherBytes count (high * 64 + byte % 64) rest else none

def escapedChar (gs : List Glyph) : Option (Char × List Glyph) := do
  let (byte, rest) ← escapedByte gs
  let (count, high) ←
    if byte < 128 then some (0, byte)
    else if byte / 32 = 6 then some (1, byte % 32)
    else if byte / 16 = 14 then some (2, byte % 16)
    else if byte / 8 = 30 then some (3, byte % 8)
    else none
  let (code, after) ← furtherBytes count high rest
  return (Char.ofNat code, after)

def tagChars (verbatim : Bool) (gs : List Glyph) : Except Fault (List Char × List Glyph) :=
  match gs with
  | [] => .ok ([], [])
  | g :: rest =>
      if g.char == '%' then
        match escapedChar (g :: rest) with
        | some (c, after) =>
            if _shorter : after.length < (g :: rest).length then do
              let (more, tail) ← tagChars verbatim after
              return (c :: more, tail)
            else .error .malformed
        | none => .error .malformed
      else if isTagChar verbatim g.char then do
        let (more, tail) ← tagChars verbatim rest
        return (g.char :: more, tail)
      else .ok ([], g :: rest)
termination_by gs.length
decreasing_by all_goals simp_all

/-- An exclamation mark, a name, and a closing exclamation mark if there is one. -/
def tagHandle (gs : List Glyph) : Except Fault (List Char × List Glyph) :=
  if peek gs == '!' then
    let (name, rest) := spanChars isWordChar (gs.drop 1)
    if peek rest == '!' then .ok ('!' :: name ++ ['!'], rest.drop 1) else .ok ('!' :: name, rest)
  else .error .malformed

/-- A tag without the check of what follows it. -/
def tagName (gs : List Glyph) : Except Fault (TagName × List Glyph) := do
  if peekAt 1 gs == '<' then
    let (suffix, rest) ← tagChars true (gs.drop 2)
    if suffix.isEmpty || peek rest != '>' then .error .malformed
    else return (⟨[], suffix⟩, rest.drop 1)
  else
    let (handle, rest) ← tagHandle gs
    let (chars, after) ← tagChars false rest
    if 2 ≤ handle.length && handle.getLast? == some '!' then
      if chars.isEmpty then .error .malformed else return (⟨handle, chars⟩, after)
    else
      let suffix := handle.drop 1 ++ chars
      if suffix.isEmpty then return (⟨[], ['!']⟩, after) else return (⟨['!'], suffix⟩, after)

def readTag (flow : Bool) (gs : List Glyph) : Except Fault (TagName × List Glyph) := do
  let (name, rest) ← tagName gs
  if endsWord (peek rest) || (flow && peek rest == ',') then return (name, rest)
  else .error .malformed

/-! ## Directives -/

def versionNumber (gs : List Glyph) : Except Fault (Nat × List Glyph) :=
  let (digits, rest) := spanChars Char.isDigit gs
  match readDigits 10 digits with
  | some n => if digits.length ≤ 9 then .ok (n, rest) else .error .malformed
  | none => .error .malformed

def versionValue (gs : List Glyph) : Except Fault (Token × List Glyph) := do
  let (major, rest) ← versionNumber (skipChars isSpace gs)
  if peek rest == '.' then
    let (minor, after) ← versionNumber (rest.drop 1)
    return (.version major minor, after)
  else .error .malformed

def tagHandleValue (gs : List Glyph) : Except Fault (Token × List Glyph) := do
  let (handle, rest) ← tagHandle (skipChars isSpace gs)
  if (2 ≤ handle.length && handle.getLast? != some '!') || !isSpace (peek rest) then
    .error .malformed
  else
    let (meaning, after) ← tagChars true (skipChars isSpace rest)
    if meaning.isEmpty || !endsWord (peek after) then .error .malformed
    else return (.tagHandle handle meaning, after)

/-- A directive behind its percent sign, up to the end of the line. -/
def readDirective (gs : List Glyph) : Except Fault (Token × List Glyph) := do
  let (name, rest) := spanChars isWordChar gs
  if !endsWord (peek rest) then .error .malformed
  else
    let (token, after) ← match String.ofList name with
      | "YAML" => versionValue rest
      | "TAG" => tagHandleValue rest
      | _ => .error .malformed
    return (token, ← finishLine after)

end LayeredConfig.Yaml
