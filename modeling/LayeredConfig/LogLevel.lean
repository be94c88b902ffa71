import LayeredConfig.Text.Blank

/-!
# Log levels

Five levels, each of which lets itself and the more severe ones through.
-/

namespace LayeredConfig

open Text

/-- How much is logged. -/
inductive LogLevel where
  | error | warn | info | debug | trace
  deriving DecidableEq, Repr

namespace LogLevel

def name : LogLevel → String
  | .error => "error"
  | .warn => "warn"
  | .info => "info"
  | .debug => "debug"
  | .trace => "trace"

/-- The levels from the most severe on. -/
def rank : LogLevel → Nat
  | .error => 0
  | .warn => 1
  | .info => 2
  | .debug => 3
  | .trace => 4

/-- The level in a text; letter case and blanks around it do not count. -/
def read (text : String) : Option LogLevel :=
  match String.ofList (lowerAscii (trim text.toList)) with
  | "trace" => some .trace
  | "debug" => some .debug
  | "info" => some .info
  | "warn" | "warning" => some .warn
  | "error" => some .error
  | _ => none

/-- Whether a message is logged where the limit is the first level. -/
def admits (limit message : LogLevel) : Bool := message.rank ≤ limit.rank

/-- The limit after a text from a configuration, and whether the text named one. -/
def adjust (limit : LogLevel) (text : String) : LogLevel × Bool :=
  match read text with
  | some level => (level, true)
  | none => (limit, false)

end LogLevel

end LayeredConfig
