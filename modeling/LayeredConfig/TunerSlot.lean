import LayeredConfig.Number.Integer
import LayeredConfig.Text.Cut
import LayeredConfig.Text.Quoted

/-!
# Tuner slots in one text

A list of tuner slots is written as numbers and ranges between commas
(`0,2-4`).  Every slot lies between zero and `TunerSlot.max`; a range that is
empty or leaves these bounds is refused, not clipped.
-/

namespace LayeredConfig.TunerSlot

open Text Number

/-- The highest slot. -/
def max : Int := 255

/-- Why a list of slots is refused. -/
inductive Fault where
  | badRange (segment : String)
  | badSlot (segment : String)
  | negative (slot : Int)
  | aboveMax (slot : Int)
  deriving DecidableEq, Repr

def Fault.message : Fault → String
  | .badRange segment => "bad range " ++ quoted segment
  | .badSlot segment => "bad slot " ++ quoted segment
  | .negative slot => "negative slot " ++ toString slot
  | .aboveMax slot => "slot " ++ toString slot ++ " above " ++ toString max

/-- The slots `low, low + 1, …, low + count - 1`. -/
def run (low : Int) : (count : Nat) → List Int
  | 0 => []
  | count + 1 => low :: run (low + 1) count

def ofSegment (segment : List Char) : Except Fault (List Int) :=
  match cutOnce '-' segment with
  | some (before, after) =>
      match readInt64 (trim before), readInt64 (trim after) with
      | some low, some high =>
          if low ≤ high ∧ 0 ≤ low ∧ high ≤ max then .ok (run low (high - low + 1).toNat)
          else .error (.badRange (String.ofList segment))
      | _, _ => .error (.badRange (String.ofList segment))
  | none =>
      match readInt64 segment with
      | none => .error (.badSlot (String.ofList segment))
      | some slot =>
          if slot < 0 then .error (.negative slot)
          else if max < slot then .error (.aboveMax slot)
          else .ok [slot]

def ofSegments : List (List Char) → Except Fault (List Int)
  | [] => .ok []
  | segment :: rest => do
      let slots ← ofSegment segment
      return slots ++ (← ofSegments rest)

def readAll (raw : String) : Except Fault (List Int) :=
  ofSegments (segments ',' raw.toList)

def write (slots : List Int) : String :=
  ",".intercalate (slots.map toString)

end LayeredConfig.TunerSlot
