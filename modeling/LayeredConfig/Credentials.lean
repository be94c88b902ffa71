import LayeredConfig.Reading

/-!
# Receiver credentials

A user name and a password may come under two names.  The credential mode says
what becomes of the pair under the older name: `inherit` uses it where the other
pair is empty, `none` allows no credentials, `explicit` ignores it.
-/

namespace LayeredConfig

open Text

/-- A user name and a password. -/
structure Credentials where
  username : String := ""
  password : String := ""
  deriving DecidableEq, Repr

namespace Credentials

def isEmpty (c : Credentials) : Bool := c.username.isEmpty && c.password.isEmpty

/-- One of the two without the other. -/
def isHalf (c : Credentials) : Bool := c.username.isEmpty != c.password.isEmpty

def ofConfig (c : Config) : Credentials :=
  { username := c .receiverUsername, password := c .receiverPassword }

def place (c : Config) (pair : Credentials) : Config :=
  (c.set .receiverUsername pair.username).set .receiverPassword pair.password

end Credentials

/-- What becomes of the credentials under the older name. -/
inductive CredentialMode where
  | inherit | none | explicit
  deriving DecidableEq, Repr

namespace CredentialMode

def name : CredentialMode → String
  | .inherit => "inherit"
  | .none => "none"
  | .explicit => "explicit"

def key : String := "enigma2.authMode"

/-- The mode in a text; nothing at all is `inherit`. -/
def read (text : String) : Except Failure CredentialMode :=
  let word := String.ofList (lowerAscii (trim text.toList))
  match word with
  | "" | "inherit" => .ok .inherit
  | "none" => .ok .none
  | "explicit" => .ok .explicit
  | _ => .error (Cause.invalid key (.credentialMode word))

/-- The pair that counts. -/
def choose (mode : CredentialMode) (own older : Credentials) : Credentials :=
  match mode with
  | .inherit => if own.isEmpty && !older.isEmpty then older else own
  | .none => {}
  | .explicit => own

end CredentialMode

namespace Credentials

/-- A pair that is set must be set as a whole. -/
def checkPair (key : String) (pair : Credentials) : Except Failure Unit :=
  if pair.isHalf then .error (Cause.invalid key .halfCredentials) else .ok ()

/-- Settles the mode and refuses credentials that contradict it. -/
def settleMode (c : Config) (older : Credentials) : Except Failure (CredentialMode × Config) := do
  let mode ← CredentialMode.read (c .receiverAuthMode)
  let own := ofConfig c
  checkPair "enigma2.username" own
  checkPair "openWebIF.username" older
  if mode = .none ∧ !own.isEmpty then
    .error (Cause.invalid CredentialMode.key .forbiddenCredentials)
  else return (mode, c.set .receiverAuthMode mode.name)

def settle (c : Config) (older : Credentials) : Except Failure (CredentialMode × Config) := do
  let (mode, settled) ← settleMode c older
  return (mode, place settled (mode.choose (ofConfig settled) older))

end Credentials

end LayeredConfig
