import LayeredConfig.Number.Integer

/-!
# Reading JSON text from the left

Each reader takes what it is for from the front of the text and returns the
rest.  `string` decodes a string; `skipValue` steps over any value and checks
its grammar only, so a lone half of a surrogate pair passes there and not in
`string`.
-/

namespace LayeredConfig.Json

open Number

/-- Why a JSON text is refused: its grammar or shape, or a member that comes twice. -/
inductive Fault where
  | malformed
  | duplicateMember (name : String)
  deriving DecidableEq, Repr

def skipBlank (cs : List Char) : List Char :=
  cs.dropWhile fun c => c = ' ' || c = '\t' || c = '\n' || c = '\r'

def hexUnit : List Char → Option (Nat × List Char)
  | a :: b :: c :: d :: rest => (digitsFrom 16 0 [a, b, c, d]).map fun n => (n, rest)
  | _ => none

def shortEscape : Char → Option Char
  | '"' => some '"'
  | '\\' => some '\\'
  | '/' => some '/'
  | 'b' => some '\x08'
  | 'f' => some '\x0c'
  | 'n' => some '\n'
  | 'r' => some '\r'
  | 't' => some '\t'
  | _ => none

/-- The character written as one or two UTF-16 units behind `\u`. -/
def unitEscape (cs : List Char) : Option (Char × List Char) := do
  let (first, rest) ← hexUnit cs
  if 0xD800 ≤ first ∧ first < 0xDC00 then
    match rest with
    | '\\' :: 'u' :: more =>
        let (second, after) ← hexUnit more
        if 0xDC00 ≤ second ∧ second < 0xE000 then
          return (Char.ofNat (0x10000 + (first - 0xD800) * 0x400 + (second - 0xDC00)), after)
        else none
    | _ => none
  else if 0xDC00 ≤ first ∧ first < 0xE000 then none
  else return (Char.ofNat first, rest)

/-- The rest of a string after its opening quote. -/
def stringTail (cs : List Char) : Except Fault (List Char × List Char) :=
  match cs with
  | [] => .error .malformed
  | '"' :: rest => .ok ([], rest)
  | '\\' :: 'u' :: rest =>
      match unitEscape rest with
      | some (c, after) =>
          if _shorter : after.length < rest.length then do
            let (text, tail) ← stringTail after
            return (c :: text, tail)
          else .error .malformed
      | none => .error .malformed
  | '\\' :: e :: rest =>
      match shortEscape e with
      | some c => do
          let (text, tail) ← stringTail rest
          return (c :: text, tail)
      | none => .error .malformed
  | c :: rest =>
      if c.toNat < 0x20 ∨ c = '\\' then .error .malformed
      else do
        let (text, tail) ← stringTail rest
        return (c :: text, tail)
termination_by cs.length

def string (cs : List Char) : Except Fault (String × List Char) :=
  match skipBlank cs with
  | '"' :: rest => do
      let (text, tail) ← stringTail rest
      return (String.ofList text, tail)
  | _ => .error .malformed

/-- Steps over the rest of a string after its opening quote. -/
def skipString : List Char → Except Fault (List Char)
  | [] => .error .malformed
  | '"' :: rest => .ok rest
  | '\\' :: 'u' :: a :: b :: c :: d :: rest =>
      if (digitsFrom 16 0 [a, b, c, d]).isSome then skipString rest else .error .malformed
  | '\\' :: e :: rest => if (shortEscape e).isSome then skipString rest else .error .malformed
  | c :: rest => if c.toNat < 0x20 ∨ c = '\\' then .error .malformed else skipString rest

def skipDigits (cs : List Char) : Except Fault (List Char) :=
  match cs with
  | c :: rest => if c.isDigit then .ok (rest.dropWhile Char.isDigit) else .error .malformed
  | [] => .error .malformed

/-- Steps over the exponent of a number, if there is one. -/
def skipExponent : List Char → Except Fault (List Char)
  | 'e' :: '+' :: rest | 'e' :: '-' :: rest | 'E' :: '+' :: rest | 'E' :: '-' :: rest =>
      skipDigits rest
  | 'e' :: rest | 'E' :: rest => skipDigits rest
  | cs => .ok cs

/-- Steps over a number: no leading zeros, digits on both sides of a point. -/
def skipNumber (cs : List Char) : Except Fault (List Char) := do
  let unsigned := match cs with
    | '-' :: rest => rest
    | _ => cs
  let whole ← match unsigned with
    | '0' :: c :: rest => if c.isDigit then .error .malformed else .ok (c :: rest)
    | '0' :: [] => .ok []
    | _ => skipDigits unsigned
  let fraction ← match whole with
    | '.' :: rest => skipDigits rest
    | _ => .ok whole
  skipExponent fraction

/-- What may come next inside a bracket. -/
inductive Open where
  | list
  | object
  deriving DecidableEq, Repr

/-- Steps over a whole value: `stack` holds the open brackets, `wantsValue` says whether a value
comes next (else a comma or a closing bracket), `first` whether the innermost bracket is still
empty. -/
def skipFrom (stack : List Open) (wantsValue first : Bool) (cs : List Char) :
    Except Fault (List Char) :=
  let text := skipBlank cs
  if wantsValue then
    match text with
    | '[' :: rest =>
        if _h : rest.length < cs.length then skipFrom (.list :: stack) true true rest
        else .error .malformed
    | '\x7b' :: rest =>
        match skipBlank rest with
        | '\x7d' :: after =>
            if _h : after.length < cs.length then skipFrom stack false false after
            else .error .malformed
        | body =>
            match skipName body with
            | .ok after =>
                if _h : after.length < cs.length then skipFrom (.object :: stack) true false after
                else .error .malformed
            | .error f => .error f
    | ']' :: rest =>
        match stack, first with
        | .list :: outer, true =>
            if _h : rest.length < cs.length then skipFrom outer false false rest
            else .error .malformed
        | _, _ => .error .malformed
    | _ =>
        match skipScalar text with
        | .ok rest =>
            if _h : rest.length < cs.length then skipFrom stack false false rest
            else .error .malformed
        | .error f => .error f
  else
    match stack, text with
    | [], _ => .ok cs
    | .list :: _, ',' :: rest =>
        if _h : rest.length < cs.length then skipFrom stack true false rest
        else .error .malformed
    | .list :: outer, ']' :: rest =>
        if _h : rest.length < cs.length then skipFrom outer false false rest
        else .error .malformed
    | .object :: _, ',' :: rest =>
        match skipName (skipBlank rest) with
        | .ok after =>
            if _h : after.length < cs.length then skipFrom stack true false after
            else .error .malformed
        | .error f => .error f
    | .object :: outer, '\x7d' :: rest =>
        if _h : rest.length < cs.length then skipFrom outer false false rest
        else .error .malformed
    | _, _ => .error .malformed
termination_by cs.length
where
  /-- A member name with its colon. -/
  skipName (cs : List Char) : Except Fault (List Char) := do
    match cs with
    | '"' :: rest =>
        match skipBlank (← skipString rest) with
        | ':' :: after => .ok after
        | _ => .error .malformed
    | _ => .error .malformed
  /-- A string, a number or a word. -/
  skipScalar : List Char → Except Fault (List Char)
    | '"' :: rest => skipString rest
    | 't' :: 'r' :: 'u' :: 'e' :: rest => .ok rest
    | 'f' :: 'a' :: 'l' :: 's' :: 'e' :: rest => .ok rest
    | 'n' :: 'u' :: 'l' :: 'l' :: rest => .ok rest
    | cs => skipNumber cs

def skipValue (cs : List Char) : Except Fault (List Char) :=
  skipFrom [] true false cs

/-- The strings of a list up to its closing bracket; `first` says that none was read yet. -/
def stringsTail (first : Bool) (cs : List Char) : Except Fault (List String × List Char) :=
  let text := skipBlank cs
  match text with
  | ']' :: rest => .ok ([], rest)
  | _ =>
      let item : Except Fault (List Char) := if first then .ok text else
        match text with
        | ',' :: rest => .ok rest
        | _ => .error .malformed
      match item.bind string with
      | .ok (s, rest) =>
          if _shorter : rest.length < cs.length then do
            let (more, tail) ← stringsTail false rest
            return (s :: more, tail)
          else .error .malformed
      | .error f => .error f
termination_by cs.length

def strings (cs : List Char) : Except Fault (List String × List Char) :=
  match skipBlank cs with
  | '[' :: rest => stringsTail true rest
  | _ => .error .malformed

end LayeredConfig.Json
