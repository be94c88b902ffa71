/-!
# Whole numbers in text

Readers for signed and unsigned decimal numbers of a fixed width.  A sign is
allowed in front, digits are ASCII, nothing else may stand in the text, and a
number outside the width is refused.
-/

namespace LayeredConfig.Number

/-- The value of one digit in a base up to 36. -/
def digitValue (c : Char) : Option Nat :=
  if '0' ≤ c ∧ c ≤ '9' then some (c.toNat - '0'.toNat)
  else if 'a' ≤ c ∧ c ≤ 'z' then some (c.toNat - 'a'.toNat + 10)
  else if 'A' ≤ c ∧ c ≤ 'Z' then some (c.toNat - 'A'.toNat + 10)
  else none

/-- The value of a digit string read on from `high`; none if some character is no digit of the
base. -/
def digitsFrom (base : Nat) : (high : Nat) → List Char → Option Nat
  | high, [] => some high
  | high, c :: rest =>
      match digitValue c with
      | some d => if d < base then digitsFrom base (high * base + d) rest else none
      | none => none

def readDigits (base : Nat) (cs : List Char) : Option Nat :=
  if cs.isEmpty then none else digitsFrom base 0 cs

def readSigned (base : Nat) : List Char → Option Int
  | '-' :: rest => (readDigits base rest).map fun n => -(n : Int)
  | '+' :: rest => (readDigits base rest).map Int.ofNat
  | cs => (readDigits base cs).map Int.ofNat

/-- Digits with an optional plus in front. -/
def readUnsigned (base : Nat) : List Char → Option Nat
  | '+' :: rest => readDigits base rest
  | cs => readDigits base cs

/-- The numbers of a signed 64-bit word. -/
def fitsInt64 (i : Int) : Bool :=
  -9223372036854775808 ≤ i && i ≤ 9223372036854775807

def readInt64 (cs : List Char) : Option Int :=
  (readSigned 10 cs).filter fitsInt64

/-- An unsigned number of at most `bits` bits. -/
def readBits (bits : Nat) (cs : List Char) : Option Nat :=
  (readUnsigned 10 cs).filter (· < Nat.pow 2 bits)

theorem fitsInt64_of_readInt64 {cs : List Char} {i : Int} (read : readInt64 cs = some i) :
    fitsInt64 i = true := by
  simp only [readInt64, Option.filter_eq_some_iff] at read
  exact read.2

end LayeredConfig.Number
