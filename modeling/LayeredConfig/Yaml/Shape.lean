import LayeredConfig.Yaml.Value

/-!
# Documents of a known shape

A reader says what a part of a document must be: a text, a number, a list, a
record.  Records are read in the order of the document; the first fault wins.
A text takes any scalar as it is written, a number only one that is not quoted.
-/

namespace LayeredConfig.Yaml

open Number

namespace Tree

/-- Reads one shape. -/
abbrev Reader (α : Type) := Tree → Except Fault α

/-- Is the scalar written plain, or as a literal block with the tag of its kind? -/
def isBare (kind : String) (tag : Option (List Char)) (style : Style) : Bool :=
  style == .plain || (style == .literal && tag == some (Value.coreTag kind))

/-- Any scalar, as it is written. -/
def text : Reader String
  | .scalar _ cs _ => .ok (String.ofList cs)
  | _ => .error .malformed

/-- A bare scalar that a reader of plain text accepts. -/
def bare {α : Type} (kind : String) (read : List Char → Option α) : Reader α
  | .scalar tag cs style =>
      match if isBare kind tag style then read cs else none with
      | some a => .ok a
      | none => .error .malformed
  | _ => .error .malformed

def bool : Reader Bool := bare "bool" readBool

def int : Reader Int := bare "int" readSigned64

def unsigned (bits : Nat) : Reader Nat := bare "int" (readUnsigned bits)

def float : Reader Binary64 := bare "float" readFloat

/-- Nothing is written, or a plain null. -/
def isAbsent : Reader Bool
  | .scalar tag cs .plain =>
      match tag with
      | none => .ok (cs.isEmpty || isNullWord cs)
      | some t =>
          if t = Value.coreTag "null" then
            if isNullWord cs then .ok true else .error .malformed
          else .ok false
  | .broken => .error .malformed
  | _ => .ok false

/-- What may be left out. -/
def optional {α : Type} (read : Reader α) : Reader (Option α) := fun t => do
  if ← isAbsent t then return none else return some (← read t)

def isEmptyPlain (cs : List Char) (style : Style) : Bool :=
  cs.isEmpty && style == .plain

/-- The items of a list; an empty scalar is an empty list. -/
def items {α : Type} (read : Reader α) : Reader (List α)
  | .sequence _ items => items.mapM read
  | .scalar _ cs style => if isEmptyPlain cs style then .ok [] else .error .malformed
  | _ => .error .malformed

/-- The entries of a mapping; an empty scalar is an empty mapping. -/
def entries : Reader (List (Tree × Tree))
  | .mapping _ entries => .ok entries
  | .scalar _ cs style => if isEmptyPlain cs style then .ok [] else .error .malformed
  | _ => .error .malformed

/-- The text of a floating-point number: positional, without an exponent. -/
def numberText : Layout :=
  { highest := none, zeros := none, keepsFraction := false, infinity := "inf", nan := "NaN" }

/-- A text, or a number that is written out again: whole numbers of 64 bits as such, all others as
floating-point numbers. -/
def textOrNumber : Reader String := fun t => do
  match ← Value.ofTree t with
  | .text s => .ok s
  | .int i =>
      if fitsInt64 i then .ok (toString i)
      else
        .ok (String.ofList
          (numberText.write (.ofMagnitude false (Decimal.toMagnitude ⟨i.toNat, 0⟩))))
  | .float x => .ok (String.ofList (numberText.write x))
  | _ => .error .malformed

/-- One of a few words, plain or as the tag of a null. -/
def word {α : Type} (words : List (String × α)) : Reader α
  | .scalar tag cs style =>
      let find (name : List Char) : Except Fault α :=
        match words.find? fun w => w.1.toList = name with
        | some w => .ok w.2
        | none => .error (.unknownVariant (String.ofList name))
      match Value.ownTag tag with
      | some name => do
          let a ← find name
          if style == .plain && (cs.isEmpty || isNullWord cs) then return a
          else .error .malformed
      | none => find cs
  | .mapping tag _ | .sequence tag _ =>
      match Value.ownTag tag with
      | some name =>
          match words.find? fun w => w.1.toList = name with
          | some _ => .error .malformed
          | none => .error (.unknownVariant (String.ofList name))
      | none => .error .malformed
  | .broken => .error .malformed

/-- Reads the entries of a record one by one.  `field` says what a key does to the record so far,
if it is a key of the record at all; no key may come twice. -/
def foldFields {σ : Type} (field : String → Option (σ → Reader σ)) (seen : List String)
    (start : σ) : List (Tree × Tree) → Except Fault σ
  | [] => .ok start
  | (key, value) :: rest => do
      let name ← text key
      match field name with
      | none => .error (.unknownField name)
      | some read =>
          if seen.contains name then .error (.duplicateField name)
          else foldFields field (name :: seen) (← read start value) rest

def record {σ : Type} (field : String → Option (σ → Reader σ)) (start : σ) : Reader σ := fun t => do
  foldFields field [] start (← entries t)

/-- A field that has to be there. -/
def required {α : Type} (name : String) (value : Option α) : Except Fault α :=
  match value with
  | some a => .ok a
  | none => .error (.missingField name)

end Tree

end LayeredConfig.Yaml
