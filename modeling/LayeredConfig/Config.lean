import LayeredConfig.Setting.Table

/-!
# Configurations

A configuration gives every setting a value of the setting's kind.  `Config.set`
changes one setting and nothing else (`set_same`, `set_other`).

`Value` is a value together with its kind, as a default in the registry or a
line of a listing needs it; `Kind.toValue` and `Kind.ofValue` go between the two.
-/

namespace LayeredConfig

open Number Text

/-- A value for every setting. -/
structure Config where
  value : (s : Setting) → s.Value

instance : CoeFun Config (fun _ => (s : Setting) → s.Value) := ⟨Config.value⟩

namespace Config

/-- Nothing set anywhere. -/
def empty : Config := ⟨fun s => s.kind.empty⟩

def set (c : Config) (s : Setting) (v : s.Value) : Config :=
  ⟨fun t => if same : t = s then same ▸ v else c t⟩

@[simp] theorem set_same (c : Config) (s : Setting) (v : s.Value) : (c.set s v) s = v := by
  simp [set]

theorem set_other (c : Config) {s t : Setting} (v : s.Value) (differ : t ≠ s) :
    (c.set s v) t = c t := by
  simp [set, differ]

def bouquetNames (c : Config) : List String := commaList (c .bouquets)

/-- The addresses in the comma-joined list of trusted proxies. -/
def proxies (c : Config) : List String := commaList (c .trustedProxies)

end Config

/-- A value with its kind.  An optional text is `unset` or a text. -/
inductive Value where
  | unset
  | text (v : String)
  | int (v : Int)
  | bool (v : Bool)
  | float (v : Binary64)
  | duration (v : Duration)
  | texts (v : List String)
  | ints (v : List Int)
  | table (v : Table)
  | tokens (v : List ScopedToken)
  | mappings (v : List PathMapping)
  | libraryRoots (v : List LibraryRoot)
  deriving DecidableEq, Repr

def Kind.word : Kind → String
  | .text => "string"
  | .optionalText => "string"
  | .int => "int"
  | .bool => "bool"
  | .float => "float"
  | .duration => "duration"
  | .texts => "string list"
  | .ints => "int list"
  | .table => "map"
  | .tokens => "scoped tokens"
  | .mappings => "path mappings"
  | .libraryRoots => "library roots"

namespace Value

def word : Value → String
  | .unset => "unset"
  | .text _ => Kind.text.word
  | .int _ => Kind.int.word
  | .bool _ => Kind.bool.word
  | .float _ => Kind.float.word
  | .duration _ => Kind.duration.word
  | .texts _ => Kind.texts.word
  | .ints _ => Kind.ints.word
  | .table _ => Kind.table.word
  | .tokens _ => Kind.tokens.word
  | .mappings _ => Kind.mappings.word
  | .libraryRoots _ => Kind.libraryRoots.word

/-- Equality of values; floating-point numbers compare as numbers. -/
def equal : Value → Value → Bool
  | .float a, .float b => a.equal b
  | a, b => a == b

end Value

def Kind.toValue : (k : Kind) → k.Carrier → Value
  | .text, v => .text v
  | .optionalText, v => match v with
      | some t => .text t
      | none => .unset
  | .int, v => .int v
  | .bool, v => .bool v
  | .float, v => .float v
  | .duration, v => .duration v
  | .texts, v => .texts v
  | .ints, v => .ints v
  | .table, v => .table v
  | .tokens, v => .tokens v
  | .mappings, v => .mappings v
  | .libraryRoots, v => .libraryRoots v

def Kind.ofValue : (k : Kind) → Value → Option k.Carrier
  | .text, .text v => some v
  | .optionalText, .text v => some (some v)
  | .optionalText, .unset => some none
  | .int, .int v => some v
  | .bool, .bool v => some v
  | .float, .float v => some v
  | .duration, .duration v => some v
  | .texts, .texts v => some v
  | .ints, .ints v => some v
  | .table, .table v => some v
  | .tokens, .tokens v => some v
  | .mappings, .mappings v => some v
  | .libraryRoots, .libraryRoots v => some v
  | _, _ => none

@[simp] theorem Kind.ofValue_toValue (k : Kind) (v : k.Carrier) :
    k.ofValue (k.toValue v) = some v := by
  cases k <;> first | rfl | (cases v <;> rfl)

namespace Config

def leaf (c : Config) (s : Setting) : Value := s.kind.toValue (c s)

/-- The configuration with one setting changed to a value of its kind; a value of another kind
changes nothing. -/
def put (c : Config) (s : Setting) (v : Value) : Config :=
  match s.kind.ofValue v with
  | some given => c.set s given
  | none => c

theorem put_other (c : Config) {s t : Setting} (v : Value) (differ : t ≠ s) :
    (c.put s v) t = c t := by
  unfold put
  split
  · exact c.set_other _ differ
  · rfl

/-- Every setting with its value, in the order of listings. -/
def leaves (c : Config) : List (Setting × Value) :=
  Setting.all.map fun s => (s, c.leaf s)

end Config

end LayeredConfig
