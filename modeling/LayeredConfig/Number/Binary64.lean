/-!
# Binary floating point in exact arithmetic

A number of the 64-bit binary format is a mantissa below `2 ^ 53` times a power
of two.  Here it is kept in natural numbers only: the unit is the smallest
positive number `2 ^ (-1074)`, and `scale` counts the doublings of that unit.
Rounding takes the nearest number of the format, a tie goes to the even
mantissa.
-/

namespace LayeredConfig.Number

/-- A finite number without its sign: `mantissa * 2 ^ scale` units of `2 ^ (-1074)`. -/
structure Magnitude where
  mantissa : Nat
  scale : Nat
  deriving DecidableEq, Repr

/-- A number of the 64-bit binary format. -/
inductive Binary64 where
  | nan
  | infinite (negative : Bool)
  | finite (negative : Bool) (size : Magnitude)
  deriving DecidableEq, Repr

/-- The quotient rounded to the nearest whole number, a tie to the even one. -/
def divNearestEven (num den : Nat) : Nat :=
  let q := num / den
  let twice := 2 * (num % den)
  if twice < den then q
  else if den < twice then q + 1
  else if q % 2 = 0 then q else q + 1

namespace Magnitude

/-- The exact size in units of `2 ^ (-1074)`. -/
def units (m : Magnitude) : Nat :=
  m.mantissa * Nat.pow 2 m.scale

def zero : Magnitude := ⟨0, 0⟩

def maxScale : Nat := 2045

/-- The number of the format nearest to `num / den` units; none above the finite range. -/
def roundUnits (num den : Nat) : Option Magnitude :=
  let whole := num / den
  let scale := (if whole = 0 then 0 else whole.log2 + 1) - 53
  let mantissa := divNearestEven num (den * Nat.pow 2 scale)
  let rounded : Magnitude :=
    if mantissa = Nat.pow 2 53 then ⟨Nat.pow 2 52, scale + 1⟩ else ⟨mantissa, scale⟩
  if rounded.scale ≤ maxScale then some rounded else none

/-- The number of the format nearest to the fraction `num / den`. -/
def ofFraction (num den : Nat) : Option Magnitude :=
  roundUnits (num * Nat.pow 2 1074) den

def add (a b : Magnitude) : Option Magnitude :=
  roundUnits (a.units + b.units) 1

def mul (a b : Magnitude) : Option Magnitude :=
  roundUnits (a.units * b.units) (Nat.pow 2 1074)

/-- The nearest whole number, a tie away from zero. -/
def round (m : Magnitude) : Nat :=
  (2 * m.units + Nat.pow 2 1074) / Nat.pow 2 1075

/-- The 63 bits behind the sign: exponent field, then fraction field. -/
def bits (m : Magnitude) : Nat :=
  m.scale * Nat.pow 2 52 + m.mantissa

/-- The magnitude with the given exponent and fraction fields. -/
def ofBits (b : Nat) : Magnitude :=
  let exponent := b / Nat.pow 2 52
  if exponent = 0 then ⟨b, 0⟩ else ⟨b % Nat.pow 2 52 + Nat.pow 2 52, exponent - 1⟩

end Magnitude

namespace Binary64

/-- The 64 bits of the interchange format. -/
def bits : Binary64 → Nat
  | .nan => 0x7ff8000000000000
  | .infinite negative => (if negative then Nat.pow 2 63 else 0) + 2047 * Nat.pow 2 52
  | .finite negative size => (if negative then Nat.pow 2 63 else 0) + size.bits

def ofBits (b : Nat) : Binary64 :=
  let negative := b / Nat.pow 2 63 % 2 = 1
  let low := b % Nat.pow 2 63
  if low < 2047 * Nat.pow 2 52 then .finite negative (.ofBits low)
  else if low = 2047 * Nat.pow 2 52 then .infinite negative
  else .nan

def isFinite : Binary64 → Bool
  | .finite _ _ => true
  | _ => false

/-- Equality of numbers: both zeros are one number and no number equals itself if it is `nan`. -/
def equal : Binary64 → Binary64 → Bool
  | .infinite n, .infinite n' => n == n'
  | .finite n size, .finite n' size' =>
      size == size' && (n == n' || size.mantissa == 0)
  | _, _ => false

/-- Zero, negative, or minus infinity. -/
def isNonpositive : Binary64 → Bool
  | .nan => false
  | .infinite negative => negative
  | .finite negative size => negative || size.mantissa == 0

/-- A finite magnitude with its sign, or the infinity that the rounding ran into. -/
def ofMagnitude (negative : Bool) : Option Magnitude → Binary64
  | some size => .finite negative size
  | none => .infinite negative

end Binary64

end LayeredConfig.Number
