import LayeredConfig.Text.Cut

/-!
# Text in ASCII letters and digits

A part of a host name that is not ASCII is written as its ASCII characters, a
hyphen, and numbers that say which other characters go where.  The numbers have
36 digits; the place at which a number ends is found by thresholds that follow
the size of the numbers before it.
-/

namespace LayeredConfig.Net.Punycode

open Text

/-! ## Digits and thresholds -/

/-- The letters stand for 0 to 25, the digits for 26 to 35. -/
def digitValue (c : Char) : Option Nat :=
  if c.isLower then some (c.toNat - 'a'.toNat)
  else if c.isUpper then some (c.toNat - 'A'.toNat)
  else if c.isDigit then some (c.toNat - '0'.toNat + 26)
  else none

def digit (n : Nat) : Char :=
  Char.ofNat (if n < 26 then 'a'.toNat + n else '0'.toNat + (n - 26))

/-- The digit from which on a number goes on behind a place. -/
def threshold (place bias : Nat) : Nat := min 26 (max 1 (place - bias))

theorem threshold_bounds (place bias : Nat) :
    1 ≤ threshold place bias ∧ threshold place bias ≤ 26 := by
  unfold threshold
  omega

/-- How often a number is divided until it is small, times 36, and what is left. -/
def shrink (delta place : Nat) : Nat × Nat :=
  if 455 < delta then shrink (delta / 35) (place + 36) else (delta, place)
termination_by delta
decreasing_by exact Nat.div_lt_self (by omega) (by omega)

/-- The bias behind a number; `count` is the length of the text with its character. -/
def adapt (delta count : Nat) (isFirst : Bool) : Nat :=
  let damped := if isFirst then delta / 700 else delta / 2
  let (rest, place) := shrink (damped + damped / count) 0
  place + 36 * rest / (rest + 38)

/-! ## Reading -/

/-- A text that is being read, and the number that is. -/
structure Decoding where
  text : List Char
  /-- The character of the next number is this one or a later one. -/
  point : Nat := 128
  bias : Nat := 72
  /-- The number so far, counted from the place of the last character. -/
  index : Nat := 0
  start : Nat := 0
  place : Nat := 36
  weight : Nat := 1

def character (point : Nat) : Option Char :=
  if point.isValidChar then some (Char.ofNat point) else none

/-- Reads a digit; the last one of a number puts a character into the text. -/
def Decoding.step (s : Decoding) (c : Char) : Option Decoding := do
  let value ← digitValue c
  let limit := threshold s.place s.bias
  let index := s.index + value * s.weight
  if limit ≤ value then
    return { s with index, place := s.place + 36, weight := s.weight * (36 - limit) }
  else
    let count := s.text.length + 1
    let point := s.point + index / count
    let position := index % count
    return { text := s.text.insertIdx position (← character point), point
             bias := adapt (index - s.start) count (s.start = 0)
             index := position + 1, start := position + 1 }

/-- The text of its ASCII form. -/
def decode (cs : List Char) : Option (List Char) := do
  let (basic, digits) := match cutOnce '-' cs.reverse with
    | some (digits, basic) => (basic.reverse, digits.reverse)
    | none => ([], cs)
  let s ← digits.foldlM Decoding.step { text := basic }
  if s.place = 36 then some s.text else none

/-! ## Writing -/

def number (bias place n : Nat) : List Char :=
  let limit := threshold place bias
  if n < limit then [digit n]
  else
    digit (limit + (n - limit) % (36 - limit)) ::
      number bias (place + 36) ((n - limit) / (36 - limit))
termination_by n
decreasing_by
  have bounds := threshold_bounds place bias
  have smaller := Nat.div_le_self (n - threshold place bias) (36 - threshold place bias)
  omega

/-- Numbers that are being written. -/
structure Encoding where
  digits : List Char := []
  delta : Nat := 0
  bias : Nat := 72
  /-- How many characters of the text are written. -/
  count : Nat

/-- Passes a character of the text while those of one code point are written. -/
def Encoding.visit (basic point : Nat) (s : Encoding) (c : Char) : Encoding :=
  if c.toNat < point then { s with delta := s.delta + 1 }
  else if c.toNat = point then
    { digits := s.digits ++ number s.bias 36 s.delta
      bias := adapt s.delta (s.count + 1) (s.count = basic), count := s.count + 1 }
  else s

/-- Writes the characters of each code point in turn; `next` is the first that can come. -/
def Encoding.visitAll (text : List Char) (basic : Nat) : (points : List Nat) → (next : Nat) →
    Encoding → Encoding
  | [], _, s => s
  | point :: rest, next, s =>
      let ready := { s with delta := s.delta + (point - next) * (s.count + 1) }
      let done := text.foldl (visit basic point) ready
      visitAll text basic rest (point + 1) { done with delta := done.delta + 1 }

/-- The ASCII form of a text. -/
def encode (cs : List Char) : List Char :=
  let basic := cs.filter fun c => c.toNat < 128
  let points := (((cs.map Char.toNat).filter (128 ≤ ·)).mergeSort (· ≤ ·)).eraseDups
  let written := Encoding.visitAll cs basic.length points 128 { count := basic.length }
  basic ++ (if basic.isEmpty then [] else ['-']) ++ written.digits

end LayeredConfig.Net.Punycode
