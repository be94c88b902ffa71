import LayeredConfig.Environment
import LayeredConfig.Failure
import LayeredConfig.Warning

/-!
# Readings

A reading is a computation that looks up variables by name, may warn and may
fail.  What it looks up next may depend on what it found, so a reading is a
tree: a node asks for a variable and has a branch for every answer.

Running a reading against an environment gives its result, the names it looked
up in order, and the warnings in order.

Main statement: `run_congr`, two environments that agree on the names a run
looked up give the same run.
-/

namespace LayeredConfig

/-- A computation that reads variables. -/
inductive Reading (α : Type) where
  | done (a : α)
  | lookup (name : String) (next : Option String → Reading α)
  | warn (w : Warning) (rest : Reading α)
  | fail (f : Failure)

/-- What a run shows: a result, the names looked up and the warnings, both in order. -/
structure Run (α : Type) where
  result : Except Failure α
  asked : List String := []
  warnings : List Warning := []

namespace Reading

/-- Runs the second reading on the result of the first. -/
def andThen {α β : Type} : Reading α → (α → Reading β) → Reading β
  | done a, next => next a
  | lookup name branch, next => lookup name fun answer => (branch answer).andThen next
  | warn w rest, next => warn w (rest.andThen next)
  | fail f, _ => fail f

instance : Monad Reading where
  pure := done
  bind := andThen

/-- The value of a variable. -/
def ask (name : String) : Reading (Option String) :=
  lookup name done

def caution (w : Warning) : Reading Unit :=
  warn w (done ())

/-- A result that is already known. -/
def ofExcept {α : Type} : Except Failure α → Reading α
  | .ok a => done a
  | .error f => fail f

def refuse {α : Type} (cause : Cause) : Reading α :=
  fail { cause }

/-- Names the stage in a failure. -/
def within {α : Type} (stage : Stage) : Reading α → Reading α
  | done a => done a
  | lookup name branch => lookup name fun answer => (branch answer).within stage
  | warn w rest => warn w (rest.within stage)
  | fail f => fail (f.within stage)

/-- Runs a reading against the values of the variables. -/
def run {α : Type} (values : String → Option String) : Reading α → Run α
  | done a => { result := .ok a }
  | lookup name branch =>
      let rest := (branch (values name)).run values
      { rest with asked := name :: rest.asked }
  | warn w rest =>
      let after := rest.run values
      { after with warnings := w :: after.warnings }
  | fail f => { result := .error f }

theorem run_congr {α : Type} {left right : String → Option String} (r : Reading α)
    (agree : ∀ name ∈ (r.run left).asked, left name = right name) :
    r.run right = r.run left := by
  induction r with
  | done a => rfl
  | fail f => rfl
  | warn w rest ih =>
      have rest_agree := ih agree
      simp only [run, rest_agree]
  | lookup name branch ih =>
      have here : left name = right name := agree name (by simp [run])
      have rest_agree := ih (left name) fun n member => agree n (by simp [run, member])
      simp only [run, ← here, rest_agree]

end Reading

namespace Run

def andThen {α β : Type} (r : Run α) (next : α → Run β) : Run β :=
  match r.result with
  | .error f => { result := .error f, asked := r.asked, warnings := r.warnings }
  | .ok a =>
      let after := next a
      { result := after.result
        asked := r.asked ++ after.asked
        warnings := r.warnings ++ after.warnings }

/-- Names the stage in the failure of a run. -/
def within {α : Type} (stage : Stage) (r : Run α) : Run α :=
  { r with result := r.result.mapError (Failure.within stage) }

end Run

end LayeredConfig
