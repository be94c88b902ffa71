import LayeredConfig.Net.HostName.Composition
import LayeredConfig.Net.HostName.Direction
import LayeredConfig.Net.HostName.Joiner
import LayeredConfig.Net.Punycode

/-!
# Host names

A host name is a list of parts with dots between them.  It is read in small
letters and composed form.  A part that is not ASCII is written in its ASCII
form, which a mark tells from other parts; a part that has the mark must be the
form of a text that could have been written.
-/

namespace LayeredConfig.Net.HostName

open Text

/-- ASCII characters that stand in no host name. -/
def isForbidden (c : Char) : Bool :=
  c.toNat ≤ 0x20 || c.toNat = 0x7F || "%#/:<>?@[\\]^|".toList.contains c

def isAscii (cs : List Char) : Bool := cs.all fun c => c.toNat < 128

/-- What stands in front of an ASCII form. -/
def formMark : List Char := "xn--".toList

/-- The longest form that is read, and the longest text that is written in one. -/
def maxForm : Nat := 2000

def maxText : Nat := 1000

/-- A part as it reads and as it is written. -/
structure Part where
  text : List Char
  written : List Char
  deriving DecidableEq, Repr

/-- Whether a text is written in an ASCII form and only in one. -/
def isFormed (text : List Char) : Bool :=
  !isAscii text && text.all (fun c => fate c = .stays) && compose text = text

/-- Reads a part of a composed name. -/
def readPart (cs : List Char) : Option Part :=
  if startsWith formMark cs then
    let form := cs.drop formMark.length
    if isAscii cs ∧ form.length ≤ maxForm then do
      let text ← Punycode.decode form
      if isFormed text then some { text, written := cs } else none
    else none
  else if isAscii cs then some { text := cs, written := cs }
  else if cs.length ≤ maxText then some { text := cs, written := formMark ++ Punycode.encode cs }
  else none

/-- Whether a part may stand alone: no mark opens it, and its joiners are in place. -/
def stands (p : Part) : Bool :=
  !(p.text.head?.any isMark) && joinersStand [] p.text

def directionsAgree (parts : List Part) : Bool :=
  let directions := parts.map fun p => p.text.map Direction.of
  !(directions.any fun d => d.any Direction.isLeftward) || directions.all Direction.keeps

def toAscii (cs : List Char) : Option (List Char) := do
  let composed := compose (← image cs)
  if composed.any isForbidden then none
  else
    let parts ← (pieces '.' composed).mapM readPart
    if parts.all stands && directionsAgree parts then
      some (joinWith '.' (parts.map Part.written))
    else none

end LayeredConfig.Net.HostName
