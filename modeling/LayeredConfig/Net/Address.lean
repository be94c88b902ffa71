import LayeredConfig.Number.Integer
import LayeredConfig.Text.Cut
import LayeredConfig.Text.Quoted

/-!
# Network addresses

An address is four octets or eight groups of sixteen bits.  In text the octets
are decimal and stand between dots; the groups are hexadecimal and stand between
colons, a double colon may stand for one or more groups of zeros, and the last
two groups may be written as octets.  A block is an address with the number of
leading bits that count.
-/

namespace LayeredConfig.Net

open Text Number

inductive Address where
  | v4 (octets : List Nat)
  | v6 (groups : List Nat)
  deriving DecidableEq, Repr

namespace Address

/-- An octet: at most three digits, no zero in front of others. -/
def readOctet (cs : List Char) : Option Nat :=
  if cs.length ≤ 3 && (cs.length ≤ 1 || cs.head? != some '0') then
    (readDigits 10 cs).filter (· ≤ 255)
  else none

def readOctets (cs : List Char) : Option (List Nat) :=
  let parts := pieces '.' cs
  if parts.length = 4 then parts.mapM readOctet else none

/-- A group: one to four hexadecimal digits. -/
def readGroup (cs : List Char) : Option Nat :=
  if cs.length ≤ 4 then readDigits 16 cs else none

/-- The groups of which the last two may be written as octets. -/
def lastGroups (cs : List Char) : Option (List Nat) :=
  if cs.contains '.' then
    match readOctets cs with
    | some [a, b, c, d] => some [a * 256 + b, c * 256 + d]
    | _ => none
  else (readGroup cs).map fun g => [g]

/-- Groups between colons; there may be none.  Octets are read at the end only, if at all. -/
def readGroups (octets : Bool) (cs : List Char) : Option (List Nat) :=
  if cs.isEmpty then some []
  else
    let parts := pieces ':' cs
    if octets then do
      let front ← parts.dropLast.mapM readGroup
      let last ← lastGroups (parts.getLast?.getD [])
      return front ++ last
    else parts.mapM readGroup

/-- What stands before and after the first double colon. -/
def cutDouble : List Char → Option (List Char × List Char)
  | [] => none
  | [_] => none
  | c :: d :: rest =>
      if c = ':' ∧ d = ':' then some ([], rest)
      else (cutDouble (d :: rest)).map fun (before, after) => (c :: before, after)

/-- Eight groups; a double colon stands for at least one. -/
def readV6 (cs : List Char) : Option (List Nat) :=
  match cutDouble cs with
  | none => (readGroups true cs).filter fun groups => groups.length = 8
  | some (before, after) => do
      let head ← readGroups false before
      let tail ← readGroups true after
      if head.length + tail.length ≤ 7 then
        return head ++ List.replicate (8 - head.length - tail.length) 0 ++ tail
      else none

def read (cs : List Char) : Option Address :=
  match readOctets cs with
  | some octets => some (.v4 octets)
  | none => (readV6 cs).map .v6

/-- The address that stands for every address. -/
def isUnspecified : Address → Bool
  | .v4 octets => octets.all (· = 0)
  | .v6 groups => groups.all (· = 0)

def width : Address → Nat
  | .v4 _ => 32
  | .v6 _ => 128

end Address

/-- An address, and the number of leading bits that count where it is given. -/
structure Block where
  address : Address
  bits : Option Nat := none
  deriving DecidableEq, Repr

namespace Block

/-- Why a text is no block that may be listed. -/
inductive Fault where
  | malformed
  | unspecified
  | badLength (text : String)
  | everything
  | tooLong (bits most : Nat)
  deriving DecidableEq, Repr

def Fault.message : Fault → String
  | .malformed => "not a valid IP address or CIDR"
  | .unspecified => "unspecified address is not allowed"
  | .badLength text => "invalid prefix length " ++ quoted text
  | .everything => "/0 would match every address"
  | .tooLong bits most =>
      "prefix length " ++ toString bits ++ " exceeds " ++ toString most

/-- A number of leading bits that fits an address. -/
def readBitCount (address : Address) (text : List Char) : Except Fault Nat :=
  match readBits 8 text with
  | none => .error (.badLength (String.ofList text))
  | some bits =>
      if bits = 0 then .error .everything
      else if address.width < bits then .error (.tooLong bits address.width)
      else .ok bits

/-- An address that must be one in particular. -/
def readSpecific (text : List Char) : Except Fault Address :=
  match Address.read text with
  | none => .error .malformed
  | some address => if address.isUnspecified then .error .unspecified else .ok address

def read (raw : String) : Except Fault Block := do
  let text := trim raw.toList
  match cutOnce '/' text with
  | none => return { address := ← readSpecific text }
  | some (before, after) =>
      let address ← readSpecific before
      return { address, bits := some (← readBitCount address after) }

end Block

end LayeredConfig.Net
