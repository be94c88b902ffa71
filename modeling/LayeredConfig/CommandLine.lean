import LayeredConfig.CommandLine.Level
import LayeredConfig.CommandLine.Word
import LayeredConfig.Comparison

/-!
# Command lines

The words of a level are read from the left.  A value is taken into its slot
when the next option or word is met, or at the end of the level, so a fault in
it may be forestalled by one in a later word.  The name of a command ends the
level; the command's own level is read to its end first.

Options of the line may stand in front of the command or behind it; one behind
it counts more.
-/

namespace LayeredConfig

/-- What the program is asked to do. -/
inductive Command where
  | check
  | display (format : ConfigFormat)
  | compare (files : Comparison) (format : ListingFormat)
  | list (format : ListingFormat) (all : Bool)
  | watch
  deriving DecidableEq, Repr

/-- What a command line says. -/
structure CommandLine where
  config : Option String := none
  deprecations : Option String := none
  noFile : Bool := false
  verbose : Bool := false
  log : String := "2"
  command : Option Command := none
  deriving DecidableEq, Repr

namespace CommandLine

/-- A level that is being read. -/
structure Progress where
  level : Level := {}
  /-- A slot whose value was not taken yet, or did not come yet. -/
  pending : Option (Slot × Option String) := none
  /-- The slots of the words still to come. -/
  places : List Slot
  /-- Whether the options have ended. -/
  ended : Bool := false

namespace Progress

def start (scope : Scope) : Progress := { places := scope.places }

/-- Is the next word the value of an option? -/
def waits (p : Progress) : Bool :=
  match p.pending with
  | some (_, none) => true
  | _ => false

/-- Takes the pending value into its slot. -/
def settle (scope : Scope) (p : Progress) : Except Refusal Progress :=
  match p.pending with
  | none => .ok p
  | some (slot, given) => do
      return { p with level := ← p.level.fill scope slot given, pending := none }

def switch (scope : Scope) (s : Switch) (p : Progress) : Except Refusal Progress := do
  let p ← p.settle scope
  return { p with level := ← p.level.turnOn s }

/-- Reads an option whose value stands in the next word. -/
def await (scope : Scope) (slot : Slot) (p : Progress) : Except Refusal Progress := do
  let p ← p.settle scope
  return { p with pending := some (slot, none) }

/-- Reads an option together with its value. -/
def attach (scope : Scope) (slot : Slot) (text : String) (p : Progress) :
    Except Refusal Progress := do
  let p ← p.settle scope
  return { p with level := ← p.level.fill scope slot (some text) }

def long (scope : Scope) (name : String) (text : Option String) (p : Progress) :
    Except Refusal Progress :=
  match scope.byLong name, text with
  | none, _ => .error .unknownArgument
  | some (.slot slot), some text => p.attach scope slot text
  | some (.slot slot), none => p.await scope slot
  | some (.switch _), some _ => .error .excessValue
  | some (.switch s), none => p.switch scope s

/-- The value in the rest of a cluster; an equals sign in front is left out. -/
def attachedText : List Char → String
  | '=' :: rest => String.ofList rest
  | rest => String.ofList rest

def cluster (scope : Scope) : List Char → Progress → Except Refusal Progress
  | [], p => .ok p
  | letter :: rest, p =>
      match scope.byShort letter with
      | none => .error .unknownArgument
      | some (.switch s) => do cluster scope rest (← p.switch scope s)
      | some (.slot slot) =>
          if rest.isEmpty then p.await scope slot
          else p.attach scope slot (attachedText rest)

def stray (scope : Scope) (ended : Bool) (word : String) : Refusal :=
  let named := (Scope.ofWord word).isSome || word = "help"
  if scope = .line && !(ended && named) then .unknownCommand else .unknownArgument

/-- Reads a word that is no option. -/
def place (scope : Scope) (word : String) (p : Progress) : Except Refusal Progress :=
  match p.places with
  | [] => .error (stray scope p.ended word)
  | slot :: rest => do
      let p ← p.settle scope
      return { p with pending := some (slot, some word), places := rest }

/-- Reads a word that names no command. -/
def step (scope : Scope) (word : String) (p : Progress) : Except Refusal Progress :=
  if p.ended then p.place scope word
  else
    match Word.read word with
    | .endOfOptions => .ok { p with ended := true }
    | .long name text => p.long scope name text
    | .cluster letters => p.cluster scope letters
    | .plain =>
        match p.pending with
        | some (slot, none) => .ok { p with pending := some (slot, some word) }
        | _ => p.place scope word

def finish (scope : Scope) (p : Progress) : Except Refusal Level := do
  let p ← p.settle scope
  p.level.check scope
  return p.level

end Progress

/-- What the words behind `help` come to: they may name one command. -/
def helpAbout : List String → Refusal
  | [] => .help
  | [word] => if (Scope.ofWord word).isSome || word = "help" then .help else .unknownCommand
  | _ => .unknownCommand

def readLevels (scope : Scope) (p : Progress) :
    List String → Except Refusal (Level × Option (Scope × Level))
  | [] => return (← p.finish scope, none)
  | word :: rest =>
      if scope = .line && !p.ended && !p.waits then
        match Scope.ofWord word with
        | some command => do
            let (inner, _) ← readLevels command (.start command) rest
            return (← p.finish scope, some (command, inner))
        | none =>
            if word = "help" then .error (helpAbout rest)
            else do readLevels scope (← p.step scope word) rest
      else do readLevels scope (← p.step scope word) rest

/-- The value in a slot; that of the inner level counts more. -/
def Level.pick (outer : Level) (inner : Option Level) (slot : Slot) : Option String :=
  match inner.bind fun l => l.value slot with
  | some text => some text
  | none => outer.value slot

def formatOf {α : Type} (read : String → Except UnknownFormat α) (default : α) (l : Level) :
    Except Refusal α :=
  match l.value .format with
  | none => .ok default
  | some text => (read text).mapError fun _ => .badValue

def commandOf (scope : Scope) (l : Level) : Except Refusal (Option Command) :=
  match scope with
  | .line => return none
  | .check => return some .check
  | .display => return some (.display (← formatOf ConfigFormat.read .yaml l))
  | .compare =>
      match l.value .old, l.value .new with
      | some old, some new =>
          return some (.compare { old, new } (← formatOf ListingFormat.read .text l))
      | _, _ => .error .missingArgument
  | .list => return some (.list (← formatOf ListingFormat.read .text l) (l.isOn .all))
  | .watch => return some .watch

def read (words : List String) : Except Refusal CommandLine := do
  let (outer, inner) ← readLevels .line (.start .line) words
  let command ← match inner with
    | some (scope, level) => commandOf scope level
    | none => pure none
  let pick := outer.pick (inner.map (·.2))
  let isOn (s : Switch) : Bool := outer.isOn s || (inner.any fun i => i.2.isOn s)
  return { config := pick .config, deprecations := pick .deprecations
           noFile := isOn .noFile, verbose := isOn .verbose
           log := (pick .log).getD "2", command }

end CommandLine

end LayeredConfig
