import LayeredConfig.Net.Address
import LayeredConfig.Net.HostName

/-!
# Addresses of services

The part of a URL that says where a service is: its scheme and its host.  A URL
of the schemes that name a host must have one; a URL of another scheme has one
behind a double slash.  Tabs and line breaks anywhere, controls and blanks at
the ends do not count.
-/

namespace LayeredConfig.Net

open Text Number

/-- Why a text is no URL. -/
inductive Url.Fault where
  | relative
  | emptyHost
  | badPort
  | badV4
  | badV6
  | badName
  | badHostCharacter
  deriving DecidableEq, Repr

def Url.Fault.message : Url.Fault → String
  | .relative => "relative URL without a base"
  | .emptyHost => "empty host"
  | .badPort => "invalid port number"
  | .badV4 => "invalid IPv4 address"
  | .badV6 => "invalid IPv6 address"
  | .badName => "invalid international domain name"
  | .badHostCharacter => "invalid domain character"

/-- The scheme of a URL in lower case, and its host if it has one. -/
structure Url where
  scheme : String
  host : Option String
  deriving DecidableEq, Repr

namespace Url

/-! ## Hosts -/

/-- The value of a byte written as two hexadecimal digits. -/
def hexByte (high low : UInt8) : Option UInt8 := do
  let a ← digitValue (Char.ofNat high.toNat)
  let b ← digitValue (Char.ofNat low.toNat)
  if a < 16 ∧ b < 16 then some (UInt8.ofNat (a * 16 + b)) else none

/-- Bytes with every percent sign and its two hexadecimal digits replaced by the byte they stand
for. -/
def unescape : List UInt8 → List UInt8
  | b :: high :: low :: more =>
      match if b = 0x25 then hexByte high low else none with
      | some byte => byte :: unescape more
      | none => b :: unescape (high :: low :: more)
  | short => short

/-- A number of an address of the old kind: decimal, octal behind a zero, hexadecimal behind `0x`.
The outer level is missing where the text is no number. -/
def readNumber (cs : List Char) : Option Nat :=
  match cs with
  | [] => none
  | '0' :: 'x' :: digits | '0' :: 'X' :: digits =>
      if digits.isEmpty then some 0 else readDigits 16 digits
  | '0' :: digit :: digits => readDigits 8 (digit :: digits)
  | digits => readDigits 10 digits

/-- Whether the last part of a name, an empty one at the end aside, is a number. -/
def endsInNumber (cs : List Char) : Bool :=
  let parts := (pieces '.' cs).reverse
  let last := match parts with
    | [] :: before :: _ => before
    | part :: _ => part
    | [] => []
  (!last.isEmpty && last.all Char.isDigit) || (readNumber last).isSome

/-- An address of up to four numbers, of which the last fills the remaining bytes. -/
def isV4 (cs : List Char) : Bool :=
  let parts := pieces '.' cs
  let parts := if parts.getLast? = some [] then parts.dropLast else parts
  match parts.mapM readNumber with
  | none => false
  | some numbers =>
      numbers.length ≤ 4 && numbers.dropLast.all (· ≤ 255) &&
        (numbers.getLast?.getD 0) < Nat.pow 256 (5 - numbers.length)

def readBracketed (inside : List Char) : Except Fault String :=
  match inside.reverse with
  | ']' :: reversed =>
      match Address.readV6 reversed.reverse with
      | some _ => .ok (String.ofList ('[' :: inside))
      | none => .error .badV6
  | _ => .error .badV6

def readHost (cs : List Char) : Except Fault String :=
  match cs with
  | '[' :: inside => readBracketed inside
  | _ =>
      let bytes := unescape (String.ofList cs).toUTF8.toList
      match (String.fromUTF8? bytes.toByteArray).bind fun s => HostName.toAscii s.toList with
      | none => .error .badName
      | some [] => .error .emptyHost
      | some name =>
          if endsInNumber name && !isV4 name then .error .badV4 else .ok (String.ofList name)

/-- A host of any other scheme. -/
def readOpaqueHost (cs : List Char) : Except Fault String :=
  match cs with
  | '[' :: inside => readBracketed inside
  | _ =>
      if cs.any fun c => "\x00\t\n\r #/:<>?@[\\]^|".toList.contains c then .error .badHostCharacter
      else .ok (String.ofList cs)

/-! ## The parts in front of the path -/

/-- The schemes whose URLs name a host and take a backslash for a slash. -/
def hostSchemes : List String := ["http", "https", "ws", "wss", "ftp"]

/-- Whether a character ends the part of a URL that names the host. -/
def endsAuthority (special : Bool) (c : Char) : Bool :=
  c = '/' || c = '?' || c = '#' || (special && c = '\\')

/-- The host, and what follows it from a colon outside brackets on. -/
def cutHost (bracketed : Bool) : List Char → List Char × List Char
  | [] => ([], [])
  | c :: rest =>
      if c = ':' && !bracketed then ([], c :: rest)
      else
        let inside := if c = '[' then true else if c = ']' then false else bracketed
        let (host, after) := cutHost inside rest
        (c :: host, after)

/-- What stands before and after the last at sign. -/
def cutUser (cs : List Char) : Option (List Char × List Char) :=
  (cutOnce '@' cs.reverse).map fun (after, before) => (before.reverse, after.reverse)

/-- A port is a number of sixteen bits, which a backslash may end; nothing at all is none. -/
def checkPort (cs : List Char) : Except Fault Unit :=
  let digits := cs.takeWhile (· ≠ '\\')
  if digits.all Char.isDigit && ((readDigits 10 digits).getD 0 ≤ 65535) then .ok ()
  else .error .badPort

/-- What follows a host up to the path. -/
def checkAfterHost : List Char → Except Fault Unit
  | ':' :: port => checkPort port
  | _ => .ok ()

/-- Whether a user or a password is named in front of the host. -/
def namesUser (user : Option (List Char)) : Bool := user.any fun u => u ≠ [] ∧ u ≠ [':']

/-- The host of a URL behind the slashes of a scheme that names one. -/
def readAuthority (text : List Char) : Except Fault String := do
  let authority := text.takeWhile fun c => !endsAuthority true c
  let server := match cutUser authority with
    | some (_, server) => server
    | none => authority
  let (host, after) := cutHost false server
  if host.isEmpty then .error .emptyHost
  else do
    let name ← readHost host
    checkAfterHost after
    return name

/-- The host of a URL behind the double slash of any other scheme. -/
def readOpaqueAuthority (text : List Char) : Except Fault (Option String) := do
  let authority := text.takeWhile fun c => !endsAuthority false c
  let more := text.dropWhile fun c => !endsAuthority false c
  let (user, server) := match cutUser authority with
    | some (user, server) => (some user, server)
    | none => (none, authority)
  let (host, after) := cutHost false server
  if user = some [] ∧ server = [] ∧ more ≠ [] then .error .emptyHost
  else do
    let name ← readOpaqueHost host
    if name.isEmpty then
      if after ≠ [] ∨ namesUser user then .error .emptyHost else return none
    else do
      checkAfterHost after
      return some name

/-! ## Files -/

/-- A letter and a colon or a bar: the drive of a path. -/
def isDrive : List Char → Bool
  | [letter, mark] => letter.isAlpha && (mark = ':' || mark = '|')
  | _ => false

/-- The first step of a path that is not taken back; a drive never is. -/
def firstStep (steps : List (List Char)) : Option (List Char) :=
  let plain (step : List Char) : String :=
    (String.ofList (lowerAscii step)).replace "%2e" "."
  let kept := steps.foldl (fun kept step =>
    if plain step = "." then kept
    else if plain step = ".." then
      if kept.length = 1 ∧ kept.any isDrive then kept else kept.dropLast
    else kept ++ [step]) []
  kept.head?

/-- The host of the URL of a file.  A path that starts with a drive has none, and `localhost` is
none. -/
def readFileHost (text : List Char) : Except Fault (Option String) :=
  match text with
  | a :: b :: rest =>
      if (a = '/' || a = '\\') && (b = '/' || b = '\\') then
        let authority := rest.takeWhile fun c => !endsAuthority true c
        let path := (rest.drop authority.length).takeWhile fun c => c ≠ '?' && c ≠ '#'
        let steps := pieces '/' ((path.drop 1).map fun c => if c = '\\' then '/' else c)
        if authority.isEmpty || isDrive authority then .ok none
        else do
          let name ← readHost authority
          if name = "localhost" || (firstStep steps).any isDrive then return none
          else return some name
      else .ok none
  | _ => .ok none

/-! ## Whole URLs -/

/-- Controls and blanks, which do not count at the ends. -/
def isEdge (c : Char) : Bool := c.toNat ≤ 0x20

/-- The text without what does not count. -/
def essential (cs : List Char) : List Char :=
  (((cs.dropWhile isEdge).reverse.dropWhile isEdge).reverse).filter fun c =>
    c ≠ '\t' && c ≠ '\n' && c ≠ '\r'

/-- The scheme and what follows its colon. -/
def cutScheme (cs : List Char) : Option (String × List Char) := do
  let (scheme, rest) ← cutOnce ':' cs
  let first ← scheme.head?
  if first.isAlpha && scheme.all fun c => c.isAlphanum || c = '+' || c = '-' || c = '.' then
    return (String.ofList (lowerAscii scheme), rest)
  else none

def read (text : String) : Except Fault Url :=
  match cutScheme (essential text.toList) with
  | none => .error .relative
  | some (scheme, rest) =>
      if hostSchemes.contains scheme then do
        let host ← readAuthority (rest.dropWhile fun c => c = '/' || c = '\\')
        return { scheme, host := some host }
      else if scheme = "file" then return { scheme, host := ← readFileHost rest }
      else
        match rest with
        | '/' :: '/' :: more => return { scheme, host := ← readOpaqueAuthority more }
        | _ => .ok { scheme, host := none }

end Url

end LayeredConfig.Net
