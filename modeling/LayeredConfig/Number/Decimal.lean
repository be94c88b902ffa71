import LayeredConfig.Number.Binary64
import LayeredConfig.Number.Integer
import LayeredConfig.Text.Blank

/-!
# Decimal text of floating-point numbers

Reading rounds the written decimal to the nearest number of the binary format.
Writing takes the fewest digits that read back, and of those the decimal
nearest to the number.  How the digits are laid out (where an exponent
appears, whether a fraction is kept) is a `Layout`.
-/

namespace LayeredConfig.Number

open LayeredConfig.Text

/-- The decimal `digits * 10 ^ exponent`. -/
structure Decimal where
  digits : Nat
  exponent : Int
  deriving DecidableEq, Repr

namespace Decimal

/-- Number of decimal digits; zero has none. -/
def width (n : Nat) : Nat :=
  if n = 0 then 0 else (Nat.toDigits 10 n).length

/-- The nearest number of the binary format.  The guards only spare work: beyond them the answer
is infinite or zero anyway. -/
def toMagnitude (d : Decimal) : Option Magnitude :=
  let top := (width d.digits : Int) + d.exponent
  if d.digits = 0 then some .zero
  else if 400 < top then none
  else if top < -400 then some .zero
  else if 0 ≤ d.exponent then Magnitude.ofFraction (d.digits * Nat.pow 10 d.exponent.toNat) 1
  else Magnitude.ofFraction d.digits (Nat.pow 10 (-d.exponent).toNat)

/-- The exponent part of a number: nothing, or `e` with a signed whole number. -/
def readExponent : List Char → Option Int
  | [] => some 0
  | c :: rest => if c = 'e' ∨ c = 'E' then readSigned 10 rest else none

/-- Digits, an optional point with more digits, an optional exponent; at least one digit in front
of the exponent. -/
def read (cs : List Char) : Option Decimal :=
  let whole := cs.takeWhile Char.isDigit
  let rest := cs.dropWhile Char.isDigit
  let (fraction, tail) := match rest with
    | '.' :: more => (more.takeWhile Char.isDigit, more.dropWhile Char.isDigit)
    | _ => ([], rest)
  if whole.isEmpty && fraction.isEmpty then none
  else do
    let exponent ← readExponent tail
    let digits ← digitsFrom 10 0 (whole ++ fraction)
    return ⟨digits, exponent - fraction.length⟩

end Decimal

namespace Binary64

/-- An unsigned number, or one of the names of infinity and of no number, in any case. -/
def readUnsigned (negative : Bool) (cs : List Char) : Option Binary64 :=
  match String.ofList (lowerAscii cs) with
  | "inf" | "infinity" => some (.infinite negative)
  | "nan" => some .nan
  | _ => (Decimal.read cs).map fun d => .ofMagnitude negative d.toMagnitude

def read : List Char → Option Binary64
  | '-' :: rest => readUnsigned true rest
  | '+' :: rest => readUnsigned false rest
  | cs => readUnsigned false cs

end Binary64

namespace Magnitude

/-- The stretch of reals, in quarters of a unit, that round to a number; the ends belong to it if
the mantissa is even. -/
structure Range where
  low : Nat
  middle : Nat
  high : Nat
  closed : Bool

/-- Half a step on either side; below a power of two the step is half as wide. -/
def range (m : Magnitude) : Range :=
  let step := Nat.pow 2 m.scale
  let middle := 4 * m.mantissa * step
  let below := if m.mantissa = Nat.pow 2 52 ∧ 0 < m.scale then step else 2 * step
  ⟨middle - below, middle, middle + 2 * step, m.mantissa % 2 = 0⟩

/-- Does `x / den` quarters lie in the range? -/
def Range.holds (r : Range) (x den : Nat) : Bool :=
  if r.closed then r.low * den ≤ x && x ≤ r.high * den
  else r.low * den < x && x < r.high * den

/-- Quarters of a unit in one. -/
def quarters : Nat := Nat.pow 2 1076

/-- The point of the grid `10 ^ exponent` in the range and nearest to the number, if there is one;
a tie goes to the even point. -/
def nearestOnGrid (m : Magnitude) (exponent : Int) : Option Decimal :=
  let r := m.range
  -- one grid step is `num / den` quarters
  let num := if 0 ≤ exponent then quarters * Nat.pow 10 exponent.toNat else quarters
  let den := if 0 ≤ exponent then 1 else Nat.pow 10 (-exponent).toNat
  let lower := r.middle * den / num
  let upper := lower + 1
  let lowerHit := 0 < lower && r.holds (lower * num) den
  let upperHit := r.holds (upper * num) den
  let toLower := r.middle * den - lower * num
  let toUpper := upper * num - r.middle * den
  if lowerHit && upperHit then
    if toLower < toUpper then some ⟨lower, exponent⟩
    else if toUpper < toLower then some ⟨upper, exponent⟩
    else some ⟨if lower % 2 = 0 then lower else upper, exponent⟩
  else if lowerHit then some ⟨lower, exponent⟩
  else if upperHit then some ⟨upper, exponent⟩
  else none

/-- The exponent of the leading decimal digit of `num / den`, for a positive quotient. -/
def leadingExponent (num den : Nat) : Int :=
  if den ≤ num then (Decimal.width (num / den) : Int) - 1
  else -(Decimal.width ((den - 1) / num) : Int)

/-- Tries the grids with `count`, `count + 1`, … digits. -/
def firstGrid (m : Magnitude) (leading : Int) (count : Nat) : (grids : Nat) → Option Decimal
  | 0 => none
  | grids + 1 =>
      match m.nearestOnGrid (leading + 1 - count) with
      | some d => some d
      | none => firstGrid m leading (count + 1) grids

def stripZeros : (steps : Nat) → Decimal → Decimal
  | 0, d => d
  | steps + 1, d =>
      if d.digits ≠ 0 ∧ d.digits % 10 = 0 then
        stripZeros steps ⟨d.digits / 10, d.exponent + 1⟩
      else d

/-- The shortest decimal that reads back as the number; seventeen digits always do. -/
def shortest (m : Magnitude) : Decimal :=
  if m.mantissa = 0 then ⟨0, 0⟩
  else
    let leading := leadingExponent m.units (Nat.pow 2 1074)
    stripZeros 20 ((firstGrid m leading 1 17).getD ⟨0, 0⟩)

end Magnitude

/-- How the digits of a number are laid out. -/
structure Layout where
  /-- The largest position of the point, counted from the first digit, that is written without an
  exponent; none for no limit. -/
  highest : Option Nat
  /-- The most zeros written between the point and the first digit; none for no limit. -/
  zeros : Option Nat
  /-- A whole number keeps `.0`. -/
  keepsFraction : Bool
  /-- An exponent that is not negative has a plus in front. -/
  plus : Bool := false
  infinity : String
  nan : String

namespace Layout

def positional (l : Layout) (digits : List Char) (point : Int) : List Char :=
  let count : Int := digits.length
  if point ≤ 0 then
    "0.".toList ++ List.replicate (-point).toNat '0' ++ digits
  else if count ≤ point then
    digits ++ List.replicate (point - count).toNat '0' ++
      (if l.keepsFraction then ".0".toList else [])
  else
    digits.take point.toNat ++ '.' :: digits.drop point.toNat

/-- First digit, the others behind a point, and the exponent. -/
def scientific (l : Layout) (digits : List Char) (point : Int) : List Char :=
  let sign := if l.plus && 1 ≤ point then ['+'] else []
  let exponent := 'e' :: sign ++ (toString (point - 1)).toList
  match digits with
  | [] => exponent
  | [only] => only :: exponent
  | first :: others => first :: '.' :: others ++ exponent

def decimal (l : Layout) (d : Decimal) : List Char :=
  let digits := Nat.toDigits 10 d.digits
  let point : Int := if d.digits = 0 then 1 else digits.length + d.exponent
  let highEnough := match l.zeros with
    | some z => decide (-(z : Int) ≤ point)
    | none => true
  let lowEnough := match l.highest with
    | some h => decide (point ≤ (h : Int))
    | none => true
  if highEnough && lowEnough then l.positional digits point else l.scientific digits point

def write (l : Layout) : Binary64 → List Char
  | .nan => l.nan.toList
  | .infinite negative => (if negative then ['-'] else []) ++ l.infinity.toList
  | .finite negative size =>
      (if negative then ['-'] else []) ++ l.decimal size.shortest

end Layout

end LayeredConfig.Number
