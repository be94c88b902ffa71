import LayeredConfig.Number.Decimal
import LayeredConfig.Text.Cut

/-!
# Durations

A duration is a whole number of nanoseconds.  Its text is a run of parts, each
a decimal number with a unit (`1h30m`, `250ms`, `1.5s`), or a bare `0`.  The
parts are summed in binary floating point, the sum is rounded to a whole
nanosecond, and anything beyond an unsigned 64-bit count is refused.

`Duration.write` prints the largest unit first and drops trailing zeros of the
fraction.
-/

namespace LayeredConfig

open Text Number

/-- A span of time in nanoseconds. -/
structure Duration where
  nanos : Nat
  deriving DecidableEq, Repr

namespace Duration

def zero : Duration := ⟨0⟩

def ofMillis (ms : Nat) : Duration := ⟨ms * 1000000⟩

def ofSeconds (s : Nat) : Duration := ⟨s * 1000000000⟩

def ofMinutes (m : Nat) : Duration := ofSeconds (60 * m)

def ofHours (h : Nat) : Duration := ofMinutes (60 * h)

/-- A unit of duration text. -/
inductive TimeUnit where
  | nano | micro | milli | second | minute | hour
  deriving DecidableEq, Repr

def TimeUnit.nanos : TimeUnit → Nat
  | .nano => 1
  | .micro => 1000
  | .milli => 1000000
  | .second => 1000000000
  | .minute => 60000000000
  | .hour => 3600000000000

/-- The unit at the front of the text, the longest name first. -/
def TimeUnit.read : List Char → Option (TimeUnit × List Char)
  | 'n' :: 's' :: rest => some (.nano, rest)
  | 'u' :: 's' :: rest => some (.micro, rest)
  | 'µ' :: 's' :: rest => some (.micro, rest)
  | 'μ' :: 's' :: rest => some (.micro, rest)
  | 'm' :: 's' :: rest => some (.milli, rest)
  | 's' :: rest => some (.second, rest)
  | 'm' :: rest => some (.minute, rest)
  | 'h' :: rest => some (.hour, rest)
  | _ => none

/-- One number with its unit: the digits before and after the point. -/
structure Part where
  whole : List Char
  fraction : List Char
  unit : TimeUnit
  deriving DecidableEq, Repr

/-- The part at the front of the text and what follows it. -/
def Part.read (cs : List Char) : Option (Part × List Char) :=
  let whole := cs.takeWhile Char.isDigit
  let rest := cs.dropWhile Char.isDigit
  let (fraction, tail) := match rest with
    | '.' :: more => (more.takeWhile Char.isDigit, more.dropWhile Char.isDigit)
    | _ => ([], rest)
  if whole.isEmpty && fraction.isEmpty then none
  else (TimeUnit.read tail).map fun (unit, after) => (⟨whole, fraction, unit⟩, after)

/-- The parts that make up the whole text; none if some of it belongs to no part. -/
def Part.readAll (cs : List Char) : Option (List Part) :=
  match Part.read cs with
  | none => none
  | some (part, rest) =>
      if rest.isEmpty then some [part]
      else if _shorter : rest.length < cs.length then (Part.readAll rest).map (part :: ·)
      else none
termination_by cs.length

/-- The nanoseconds of a part in binary floating point: the number is rounded, then the product. -/
def Part.magnitude (p : Part) : Option Magnitude := do
  let digits ← digitsFrom 10 0 (p.whole ++ p.fraction)
  let number ← Decimal.toMagnitude ⟨digits, -(p.fraction.length : Int)⟩
  let unit ← Magnitude.ofFraction p.unit.nanos 1
  number.mul unit

/-- The rounded sum of the parts, from the left; none beyond the range of the format. -/
def Part.total (parts : List Part) : Option Magnitude :=
  parts.foldlM (fun sum part => do sum.add (← part.magnitude)) .zero

/-- Why a text is no duration. -/
inductive Fault where
  | empty
  /-- The trimmed text starts with a minus. -/
  | negative (text : String)
  | invalid (raw : String)
  deriving DecidableEq, Repr

def maxNanos : Nat := Nat.pow 2 64 - 1

/-- Rounds a sum of parts; sums above `2 ^ 64` are out of range, `2 ^ 64` itself counts as the
largest duration. -/
def ofTotal (total : Magnitude) : Option Duration :=
  if Nat.pow 2 64 * Nat.pow 2 1074 < total.units then none
  else some ⟨min total.round maxNanos⟩

/-- The duration written after the sign. -/
def readUnsigned (cs : List Char) : Option Duration :=
  if cs = ['0'] then some zero
  else do
    let parts ← Part.readAll cs
    let total ← Part.total parts
    ofTotal total

/-- Reads a duration: blanks at the ends do not count, one plus sign is allowed. -/
def read (raw : String) : Except Fault Duration :=
  match trim raw.toList with
  | [] => .error .empty
  | '-' :: rest => .error (.negative (String.ofList ('-' :: rest)))
  | cs =>
      let body := match cs with
        | '+' :: rest => rest
        | _ => cs
      match readUnsigned body with
      | some d => .ok d
      | none => .error (.invalid raw)

/-- A whole number and the digits behind the point, `places` of them, without trailing zeros. -/
def writeFraction (whole fraction places : Nat) : List Char :=
  let digits := Nat.toDigits 10 fraction
  let padded := List.replicate (places - digits.length) '0' ++ digits
  let kept := (padded.reverse.dropWhile (· = '0')).reverse
  Nat.toDigits 10 whole ++ (if kept.isEmpty then [] else '.' :: kept)

/-- The text of a duration: hours, minutes and seconds from one second on, else the largest unit
below a second. -/
def write (d : Duration) : String :=
  let n := d.nanos
  let text :=
    if n = 0 then "0s".toList
    else if n < 1000 then Nat.toDigits 10 n ++ "ns".toList
    else if n < 1000000 then writeFraction (n / 1000) (n % 1000) 3 ++ "µs".toList
    else if n < 1000000000 then writeFraction (n / 1000000) (n % 1000000) 6 ++ "ms".toList
    else
      let total := n / 1000000000
      let hours := total / 3600
      let minutes := total % 3600 / 60
      let seconds := writeFraction (total % 60) (n % 1000000000) 9 ++ "s".toList
      if 0 < hours then
        Nat.toDigits 10 hours ++ 'h' :: Nat.toDigits 10 minutes ++ 'm' :: seconds
      else if 0 < minutes then Nat.toDigits 10 minutes ++ 'm' :: seconds
      else seconds
  String.ofList text

end Duration

end LayeredConfig
