import LayeredConfig.Format

/-!
# The levels of a command line

A command line has one level, and a second one behind the name of a command.  A
level holds values in slots and switches that are on.  The options that every
level knows are the same; some commands add options or places of their own.

In a level each slot takes one value and each switch is turned on once.
-/

namespace LayeredConfig.CommandLine

/-- What takes a value. -/
inductive Slot where
  | config | deprecations | log | format | old | new
  deriving DecidableEq, Repr

/-- What is on or off. -/
inductive Switch where
  | noFile | verbose | all | help | version
  deriving DecidableEq, Repr

/-- What an option is for. -/
inductive Key where
  | slot (s : Slot)
  | switch (s : Switch)
  deriving DecidableEq, Repr

/-- The line as a whole, or one of its commands. -/
inductive Scope where
  | line | check | display | compare | list | watch
  deriving DecidableEq, Repr

/-- Why a command line gives no program to run. -/
inductive Refusal where
  /-- It asks for help. -/
  | help
  /-- It asks for the version. -/
  | version
  | unknownArgument
  | unknownCommand
  /-- A slot got no value, or an empty one. -/
  | emptyValue
  /-- A value that its slot does not take. -/
  | badValue
  /-- A switch got a value. -/
  | excessValue
  /-- An argument stands twice, or beside one that excludes it. -/
  | conflict
  | missingArgument
  deriving DecidableEq, Repr

/-- An option with its long name and its short one. -/
structure Key.Named where
  key : Key
  long : String
  short : Option Char := none

namespace Scope

/-- The options that every level knows. -/
def sharedKeys : List Key.Named :=
  [{ key := .slot .config, long := "config", short := some 'c' },
   { key := .slot .deprecations, long := "deprecations" },
   { key := .slot .log, long := "log", short := some 'l' },
   { key := .switch .noFile, long := "no-file" },
   { key := .switch .verbose, long := "verbose", short := some 'v' },
   { key := .switch .help, long := "help", short := some 'h' }]

/-- The options of one level alone. -/
def ownKeys : Scope → List Key.Named
  | .line => [{ key := .switch .version, long := "version", short := some 'V' }]
  | .display | .compare => [{ key := .slot .format, long := "format", short := some 'f' }]
  | .list =>
      [{ key := .slot .format, long := "format", short := some 'f' },
       { key := .switch .all, long := "all" }]
  | .check | .watch => []

def byLong (scope : Scope) (name : String) : Option Key :=
  ((sharedKeys ++ scope.ownKeys).find? fun k => k.long = name).map Key.Named.key

def byShort (scope : Scope) (letter : Char) : Option Key :=
  ((sharedKeys ++ scope.ownKeys).find? fun k => k.short = some letter).map Key.Named.key

/-- The slots of the words that are no options, in order. -/
def places : Scope → List Slot
  | .compare => [.old, .new]
  | _ => []

def ofWord (word : String) : Option Scope :=
  match word with
  | "check" => some .check
  | "show" => some .display
  | "diff" => some .compare
  | "registry" => some .list
  | "watch" => some .watch
  | _ => none

/-- Whether a slot takes a text, and how it is refused if not. -/
def checkValue (scope : Scope) (slot : Slot) (text : String) : Except Refusal Unit :=
  match slot with
  | .log => .ok ()
  | .format =>
      let known := match scope with
        | .display => (ConfigFormat.read text).toBool
        | _ => (ListingFormat.read text).toBool
      if known then .ok () else .error .badValue
  | _ => if text.isEmpty then .error .emptyValue else .ok ()

end Scope

/-- What one level holds. -/
structure Level where
  values : List (Slot × String) := []
  switches : List Switch := []
  deriving DecidableEq, Repr

namespace Level

def value (l : Level) (slot : Slot) : Option String :=
  (l.values.find? fun v => v.1 = slot).map (·.2)

def isOn (l : Level) (s : Switch) : Bool := l.switches.contains s

def fill (scope : Scope) (slot : Slot) (given : Option String) (l : Level) :
    Except Refusal Level :=
  match given with
  | none => .error .emptyValue
  | some text =>
      if (l.value slot).isSome then .error .conflict
      else do
        scope.checkValue slot text
        return { l with values := (slot, text) :: l.values }

/-- Turns a switch on.  Two of them end the reading at once. -/
def turnOn (s : Switch) (l : Level) : Except Refusal Level :=
  match s with
  | .help => .error .help
  | .version => .error .version
  | _ =>
      if l.isOn s then .error .conflict
      else .ok { l with switches := s :: l.switches }

/-- What must hold of a level as a whole. -/
def check (scope : Scope) (l : Level) : Except Refusal Unit :=
  if l.isOn .noFile && (l.value .config).isSome then .error .conflict
  else if scope.places.any fun slot => (l.value slot).isNone then .error .missingArgument
  else .ok ()

end Level

end LayeredConfig.CommandLine
