import LayeredConfig.Failure

/-!
# The registry

A registry is a table of entries, one per setting at most, that says under which
key and which variables a setting is known, what its default is and how it may
change.  No key and no variable belongs to two entries.  `Registry.builtIn` has
an entry for every setting.

Main statement: `Registry.builtIn_covers`, the built-in registry leaves no
setting out.
-/

namespace LayeredConfig

/-- The facts about one setting. -/
structure Entry where
  setting : Setting
  /-- Dotted key in the file. -/
  path : Option String := none
  primary : Option String := none
  legacy : Option String := none
  tier : Tier := .simple
  status : Status := .active
  default : Option Value := none
  /-- Declared safe to change without a restart. -/
  liveFlag : Bool := false
  /-- Masked wherever it is printed. -/
  secret : Bool := false
  deriving DecidableEq, Repr

namespace Entry

def ofSetting (s : Setting) : Entry :=
  let row := s.row
  { setting := s, path := row.path, primary := row.primary, legacy := row.legacy
    tier := row.tier, status := row.status, liveFlag := row.liveFlag, secret := row.secret
    default := s.default.map s.kind.toValue }

/-- The variables of an entry, the older one last. -/
def variableNames (e : Entry) : List String := e.primary.toList ++ e.legacy.toList

/-- May the setting change without a restart?  It must be declared so and stand on the list of
those that may. -/
def isLive (e : Entry) : Bool := e.liveFlag && Setting.mayReload.contains e.setting

end Entry

/-- A table of entries. -/
structure Registry where
  entries : List Entry
  deriving DecidableEq, Repr

namespace Registry

def firstTaken (taken : List String) : List String → Option String
  | [] => none
  | name :: rest => if taken.contains name then some name else firstTaken (name :: taken) rest

/-- What is wrong with an entry behind some others. -/
def fault? (earlier : List Entry) (e : Entry) : Option RegistryFault :=
  if earlier.any fun other => other.setting = e.setting then some (.duplicateSetting e.setting)
  else
    match firstTaken (earlier.flatMap fun other => other.path.toList) e.path.toList with
    | some path => some (.duplicatePath path)
    | none =>
        (firstTaken (earlier.flatMap Entry.variableNames) e.variableNames).map .duplicateVariable

/-- Adds entries behind others, the first fault wins. -/
def check (earlier : List Entry) : List Entry → Except Failure Unit
  | [] => .ok ()
  | e :: rest =>
      match fault? earlier e with
      | some fault => .error (Cause.registry fault)
      | none => check (earlier ++ [e]) rest

def ofEntries (entries : List Entry) : Except Failure Registry := do
  check [] entries
  return ⟨entries⟩

def builtInEntries : List Entry := Setting.all.map Entry.ofSetting

def builtIn : Registry := ⟨builtInEntries⟩

def bySetting (r : Registry) (s : Setting) : Option Entry :=
  r.entries.find? fun e => e.setting = s

def byPath (r : Registry) (path : String) : Option Entry :=
  r.entries.find? fun e => e.path = some path

def byVariable (r : Registry) (name : String) : Option Entry :=
  r.entries.find? fun e => e.variableNames.contains name

/-- Every variable that some entry knows. -/
def variableNames (r : Registry) : List String := r.entries.flatMap Entry.variableNames

/-- May the setting change without a restart? -/
def isLive (r : Registry) (s : Setting) : Bool := (r.bySetting s).any Entry.isLive

def isSecret (r : Registry) (s : Setting) : Bool := (r.bySetting s).any Entry.secret

/-- The key under which a setting is shown: that of its entry, else its name. -/
def shownPath (r : Registry) (s : Setting) : String :=
  ((r.bySetting s).bind Entry.path).getD s.name

def checkCoverage (r : Registry) : Except Failure Unit :=
  match Setting.all.find? fun s => (r.bySetting s).isNone with
  | some s => .error (Cause.registry (.unregistered s))
  | none => .ok ()

/-! ## Defaults -/

/-- The configuration with a default.  An optional text keeps a value that is set. -/
def applyDefault (c : Config) (s : Setting) (v : Value) : Except Failure Config :=
  match s.kind.ofValue v with
  | none => .error ((Cause.registry (.wrongKind s v) : Failure).within (.defaultOf s))
  | some given =>
      if s.kind = .optionalText ∧ (c.leaf s ≠ .unset ∨ v = .unset) then .ok c
      else .ok (c.set s given)

/-- Applies the defaults of entries in order, and stops at the first that does not fit.  What was
applied in front of it stays. -/
def applyEntries (c : Config) : List Entry → Config × Except Failure Unit
  | [] => (c, .ok ())
  | e :: rest =>
      match e.default with
      | none => applyEntries c rest
      | some v =>
          match applyDefault c e.setting v with
          | .ok next => applyEntries next rest
          | .error f => (c, .error f)

def applyDefaults (r : Registry) (c : Config) : Config × Except Failure Unit :=
  applyEntries c r.entries

def defaults (r : Registry) : Config := (r.applyDefaults .empty).1

theorem builtIn_covers (s : Setting) : ∃ e ∈ builtIn.entries, e.setting = s :=
  ⟨Entry.ofSetting s, List.mem_map.2 ⟨s, Setting.mem_all s, rfl⟩, rfl⟩

end Registry

end LayeredConfig
