/-!
# Environments

An environment is a list of variables with their values, sorted by name, each
name once.  `Environment.ofList` brings any list into that form, the last value
of a name wins.
-/

namespace LayeredConfig

/-- Variables and their values, in the order of the names. -/
structure Environment where
  bindings : List (String × String)
  deriving DecidableEq, Repr

namespace Environment

def empty : Environment := ⟨[]⟩

/-- A value put under a name among bindings in the order of the names. -/
def insertBinding (name value : String) : List (String × String) → List (String × String)
  | [] => [(name, value)]
  | (n, v) :: rest =>
      if n = name then (name, value) :: rest
      else if name < n then (name, value) :: (n, v) :: rest
      else (n, v) :: insertBinding name value rest

def set (env : Environment) (name value : String) : Environment :=
  ⟨insertBinding name value env.bindings⟩

/-- Removes a variable. -/
def unset (env : Environment) (name : String) : Environment :=
  ⟨env.bindings.filter fun b => b.1 ≠ name⟩

def ofList (bindings : List (String × String)) : Environment :=
  bindings.foldl (fun env b => env.set b.1 b.2) empty

/-- The value of a variable. -/
def get? (env : Environment) (name : String) : Option String :=
  (env.bindings.find? fun b => b.1 = name).map (·.2)

/-- Every variable as `name=value`. -/
def listing (env : Environment) : List String :=
  env.bindings.map fun b => b.1 ++ "=" ++ b.2

end Environment

end LayeredConfig
