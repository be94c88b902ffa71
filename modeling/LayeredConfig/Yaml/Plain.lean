import LayeredConfig.Number.Decimal

/-!
# What plain text stands for

The words and numbers of the core schema.  A number may be written in base two,
eight, ten or sixteen; digits with a leading zero are text, not a number.
-/

namespace LayeredConfig.Yaml

open Number

def isNullWord (cs : List Char) : Bool :=
  ["null", "Null", "NULL", "~"].contains (String.ofList cs)

/-- A truth value. -/
def readBool (cs : List Char) : Option Bool :=
  match String.ofList cs with
  | "true" | "True" | "TRUE" => some true
  | "false" | "False" | "FALSE" => some false
  | _ => none

def dropSign : List Char → List Char
  | '+' :: rest | '-' :: rest => rest
  | cs => cs

/-- Digits that look like a number but have a leading zero. -/
def hasLeadingZero (cs : List Char) : Bool :=
  match dropSign cs with
  | '0' :: d :: rest => (d :: rest).all Char.isDigit
  | _ => false

/-- The base that a mark in front of the digits names, and the digits. -/
def markedBase : List Char → Option (Nat × List Char)
  | '0' :: 'x' :: digits => some (16, digits)
  | '0' :: 'o' :: digits => some (8, digits)
  | '0' :: 'b' :: digits => some (2, digits)
  | _ => none

/-- A number without sign. -/
def readNat (cs : List Char) : Option Nat :=
  match markedBase cs with
  | some (base, digits) => readDigits base digits
  | none => if hasLeadingZero cs then none else readDigits 10 cs

/-- A whole number of any size, with an optional sign. -/
def readWhole : List Char → Option Int
  | '-' :: rest => (readNat rest).map fun n => -(n : Int)
  | '+' :: rest => (readNat rest).map Int.ofNat
  | cs => (readNat cs).map Int.ofNat

/-- A number of at most `bits` bits without sign or with a plus. -/
def readUnsigned (bits : Nat) (cs : List Char) : Option Nat :=
  let body := match cs with
    | '+' :: rest => rest
    | _ => cs
  (readNat body).filter (· < Nat.pow 2 bits)

/-- A signed number of 64 bits. -/
def readSigned64 (cs : List Char) : Option Int :=
  (readWhole cs).filter fitsInt64

/-- A floating-point number: finite, or one of the names with a point in front. -/
def readFloat (cs : List Char) : Option Binary64 :=
  let unsigned := match cs with
    | '+' :: rest => rest
    | _ => cs
  match String.ofList cs with
  | "-.inf" | "-.Inf" | "-.INF" => some (.infinite true)
  | ".nan" | ".NaN" | ".NAN" => some .nan
  | _ =>
      match String.ofList unsigned, unsigned with
      | ".inf", _ | ".Inf", _ | ".INF", _ => some (.infinite false)
      | _, '+' :: _ => none
      | _, '-' :: rest =>
          if cs == unsigned then (Binary64.read ('-' :: rest)).filter Binary64.isFinite else none
      | _, body => (Binary64.read body).filter Binary64.isFinite

end LayeredConfig.Yaml
