import LayeredConfig.Json.Scan
import LayeredConfig.Json.Value
import LayeredConfig.Setting.Basic
import LayeredConfig.Text.Cut
import LayeredConfig.Text.Quoted

/-!
# Scoped tokens in one text

A list of API tokens with their scopes is written in one of two ways: as a JSON
array of objects, or as entries `token=scope,scope` between semicolons.  Either
way tokens and scopes are trimmed, no token comes twice, and every token has a
scope.

`ScopedToken.writeJson` and `ScopedToken.writeEntries` are the two printers.
-/

namespace LayeredConfig.ScopedToken

open Text
open Json (skipBlank skipValue)

/-- Why a list of tokens is refused. -/
inductive Fault where
  | notAList
  | json (fault : Json.Fault)
  | emptyList
  | emptyToken
  | duplicate (token : String)
  | blankScope (token : String)
  | noScopes (token : String)
  | noAssignment (entry : String)
  | noEntries
  deriving DecidableEq, Repr

def Fault.message : Fault → String
  | .notAList => "JSON must be an array of objects"
  | .json .malformed => "JSON parse failed: <json>"
  | .json (.duplicateMember name) => "JSON parse failed: <json: duplicate field `" ++ name ++ "`>"
  | .emptyList => "JSON array is empty"
  | .emptyToken => "token is empty"
  | .duplicate token => "duplicate token " ++ quoted token
  | .blankScope token => "scopes must not be empty for token " ++ quoted token
  | .noScopes token => "scopes must be set for token " ++ quoted token
  | .noAssignment entry => "legacy entry must be token=scopes: " ++ quoted entry
  | .noEntries => "no valid token entries"

/-! ## The JSON form -/

/-- An element of the array as written; a missing member counts as empty. -/
structure Element where
  token : Option String := none
  scopes : Option (List String) := none
  deriving Repr

/-- The members of an object up to its closing brace. -/
def Element.members (first : Bool) (element : Element) (cs : List Char) :
    Except Json.Fault (Element × List Char) :=
  match skipBlank cs with
  | '\x7d' :: rest => .ok (element, rest)
  | text =>
      let separated : Except Json.Fault (List Char) := if first then .ok text else
        match text with
        | ',' :: rest => .ok rest
        | _ => .error .malformed
      let step : Except Json.Fault (Element × List Char) := do
        let (name, rest) ← Json.string (← separated)
        let colon (cs : List Char) : Except Json.Fault (List Char) :=
          match skipBlank cs with
          | ':' :: after => .ok after
          | _ => .error .malformed
        match name with
        | "token" =>
            if element.token.isSome then .error (.duplicateMember name)
            else
              let (token, after) ← Json.string (← colon rest)
              return ({ element with token := some token }, after)
        | "scopes" =>
            if element.scopes.isSome then .error (.duplicateMember name)
            else
              let (scopes, after) ← Json.strings (← colon rest)
              return ({ element with scopes := some scopes }, after)
        | _ => return (element, ← skipValue (← colon rest))
      match step with
      | .ok (next, rest) =>
          if _shorter : rest.length < cs.length then Element.members false next rest
          else .error .malformed
      | .error f => .error f
termination_by cs.length

/-- An element written as a list: the token, then the scopes, either left out from the right. -/
def Element.positions (cs : List Char) : Except Json.Fault (Element × List Char) := do
  match skipBlank cs with
  | ']' :: rest => return ({}, rest)
  | text =>
      let (token, rest) ← Json.string text
      match skipBlank rest with
      | ']' :: after => return ({ token := some token }, after)
      | ',' :: more =>
          let (scopes, after) ← Json.strings more
          match skipBlank after with
          | ']' :: tail => return ({ token := some token, scopes := some scopes }, tail)
          | _ => .error .malformed
      | _ => .error .malformed

/-- The elements of the array up to its closing bracket. -/
def Element.tail (first : Bool) (cs : List Char) :
    Except Json.Fault (List Element × List Char) :=
  match skipBlank cs with
  | ']' :: rest => .ok ([], rest)
  | text =>
      let separated : Except Json.Fault (List Char) := if first then .ok text else
        match text with
        | ',' :: rest => .ok rest
        | _ => .error .malformed
      let step : Except Json.Fault (Element × List Char) := do
        match skipBlank (← separated) with
        | '\x7b' :: rest => Element.members true {} rest
        | '[' :: rest => Element.positions rest
        | _ => .error .malformed
      match step with
      | .ok (element, rest) =>
          if _shorter : rest.length < cs.length then do
            let (more, after) ← Element.tail false rest
            return (element :: more, after)
          else .error .malformed
      | .error f => .error f
termination_by cs.length

def Element.readAll (cs : List Char) : Except Json.Fault (List Element) := do
  match cs with
  | '[' :: rest =>
      let (elements, after) ← Element.tail true rest
      if (skipBlank after).isEmpty then return elements else .error .malformed
  | _ => .error .malformed

/-- The trimmed scopes of a token; none may be blank. -/
def trimScopes (token : String) : List String → Except Fault (List String)
  | [] => .ok []
  | scope :: rest => do
      let trimmed := trim scope.toList
      if trimmed.isEmpty then .error (.blankScope token)
      else return String.ofList trimmed :: (← trimScopes token rest)

/-- The tokens of the elements; `seen` holds those in front. -/
def ofElements (seen : List String) : List Element → Except Fault (List ScopedToken)
  | [] => .ok []
  | element :: rest => do
      let token := String.ofList (trim (element.token.getD "").toList)
      if token.isEmpty then .error .emptyToken
      else if seen.contains token then .error (.duplicate token)
      else
        let scopes ← trimScopes token (element.scopes.getD [])
        if scopes.isEmpty then .error (.noScopes token)
        else return { token, scopes } :: (← ofElements (token :: seen) rest)

def readJson (cs : List Char) : Except Fault (List ScopedToken) := do
  match Element.readAll cs with
  | .error f => .error (.json f)
  | .ok [] => .error .emptyList
  | .ok elements => ofElements [] elements

/-! ## The entry form -/

/-- The tokens of the entries; `seen` holds those in front. -/
def ofEntries (seen : List String) : List (List Char) → Except Fault (List ScopedToken)
  | [] => .ok []
  | entry :: rest =>
      match cutOnce '=' entry with
      | none => .error (.noAssignment (String.ofList entry))
      | some (before, after) => do
          let token := String.ofList (trim before)
          if token.isEmpty then .error .emptyToken
          else if seen.contains token then .error (.duplicate token)
          else
            let scopes := (segments ',' after).map String.ofList
            if scopes.isEmpty then .error (.noScopes token)
            else return { token, scopes } :: (← ofEntries (token :: seen) rest)

def readEntries (cs : List Char) : Except Fault (List ScopedToken) := do
  let tokens ← ofEntries [] (segments ';' cs)
  if tokens.isEmpty then .error .noEntries else return tokens

/-- Reads a list of tokens: a bracket opens the JSON form, a brace none. -/
def readAll (raw : String) : Except Fault (List ScopedToken) :=
  match trim raw.toList with
  | '[' :: rest => readJson ('[' :: rest)
  | '\x7b' :: _ => .error .notAList
  | cs => readEntries cs

/-! ## Printers -/

def toJson (t : ScopedToken) : Json :=
  .object ([("scopes", .list (t.scopes.map .text)), ("token", .text t.token)] ++
    match t.user with
    | some user => [("user", .text user)]
    | none => [])

/-- The JSON form. -/
def writeJson (tokens : List ScopedToken) : String :=
  Json.write (.list (tokens.map toJson))

/-- The entry form. -/
def writeEntries (tokens : List ScopedToken) : String :=
  ";".intercalate (tokens.map fun t => t.token ++ "=" ++ ",".intercalate t.scopes)

end LayeredConfig.ScopedToken
