import LayeredConfig.Change
import LayeredConfig.Loader

/-!
# The configuration in force

A holder keeps the snapshot of the latest load that succeeded.  A reload that
succeeds replaces the snapshot, counts one epoch up and offers an event to every
listener; one that fails leaves everything as it is.  A listener has a queue of
bounded length: an event that finds it full is lost for that listener alone.
Listeners that were dropped are struck off by the next reload that succeeds.

Epochs and capacities are natural numbers.  A count in 64 bits is the same for
the first 2^64 reloads; the limit that a channel sets to its capacity is left
out, and so is the time at which a snapshot was made, since nothing reads it.

Main statement: `reload_error`, a failed reload keeps the holder.
-/

namespace LayeredConfig

/-- A configuration and the count of the load it came from, the first being 1. -/
structure Snapshot where
  config : Config
  epoch : Nat

/-- What a reload tells its listeners. -/
structure ReloadEvent where
  snapshot : Snapshot
  changes : Summary

/-- A queue of events that were not received yet. -/
structure Listener where
  /-- The count of the subscriptions in front of this one. -/
  number : Nat
  capacity : Nat
  queue : List ReloadEvent := []
  dropped : Bool := false

/-- The loader, the snapshot in force, and the listeners in the order of their subscriptions. -/
structure Holder where
  loader : Loader
  current : Snapshot
  listeners : List Listener := []
  /-- How many subscriptions were made. -/
  subscriptions : Nat := 0

/-- What a listener finds in its queue. -/
inductive Received where
  | event (e : ReloadEvent)
  | nothing
  | gone

namespace Listener

def isFull (l : Listener) : Bool := l.capacity ≤ l.queue.length

/-- Offers an event; a full queue does not take it. -/
def offer (e : ReloadEvent) (l : Listener) : Listener :=
  if l.isFull then l else { l with queue := l.queue ++ [e] }

theorem offer_length (e : ReloadEvent) {l : Listener} (fits : l.queue.length ≤ l.capacity) :
    (l.offer e).queue.length ≤ (l.offer e).capacity := by
  unfold offer isFull
  split
  · exact fits
  · next room => simp at room ⊢; omega

end Listener

namespace Holder

/-- A holder of a configuration that was loaded already. -/
def ofConfig (loader : Loader) (config : Config) : Holder :=
  { loader, current := { config, epoch := 1 } }

def start (loader : Loader) (env : Environment) (now : String) (d : Disk) : Run Holder × Disk :=
  let (run, after) := loader.load env now d
  ({ result := run.result.map fun loaded => ofConfig loader loaded.config
     asked := run.asked, warnings := run.warnings }, after)

/-- Adds a listener; its queue holds at least one event. -/
def subscribe (h : Holder) (capacity : Nat) : Nat × Holder :=
  (h.subscriptions,
   { h with
     listeners := h.listeners ++ [{ number := h.subscriptions, capacity := max capacity 1 }]
     subscriptions := h.subscriptions + 1 })

def listener (h : Holder) (number : Nat) : Option Listener :=
  h.listeners.find? fun l => l.number = number

def update (h : Holder) (number : Nat) (change : Listener → Listener) : Holder :=
  { h with listeners := h.listeners.map fun l => if l.number = number then change l else l }

/-- Drops a listener.  It stays on the list until the next reload. -/
def drop (h : Holder) (number : Nat) : Holder :=
  h.update number fun l => { l with dropped := true, queue := [] }

/-- The next event of a listener. -/
def receive (h : Holder) (number : Nat) : Received × Holder :=
  match h.listener number with
  | none => (.gone, h)
  | some l =>
      if l.dropped then (.gone, h)
      else
        match l.queue with
        | [] => (.nothing, h)
        | e :: rest => (.event e, h.update number fun l => { l with queue := rest })

/-- Offers an event to every listener and strikes off those that were dropped. -/
def notify (h : Holder) (e : ReloadEvent) : Holder :=
  { h with listeners := (h.listeners.filter fun l => !l.dropped).map (Listener.offer e) }

/-- One warning per listener that cannot take an event. -/
def fullWarnings (h : Holder) : List Warning :=
  (h.listeners.filter fun l => !l.dropped && l.isFull).map fun _ => .listenerFull

def eventOf (h : Holder) (config : Config) : ReloadEvent :=
  { snapshot := { config, epoch := h.current.epoch + 1 }
    changes := Summary.between h.loader.registry h.current.config config }

/-- The holder after a load, and what the load came to. -/
def settle (h : Holder) (run : Run Loaded) : Run ReloadEvent × Holder :=
  match run.result with
  | .error f =>
      ({ result := .error f, asked := run.asked, warnings := run.warnings ++ [.reloadFailed] }, h)
  | .ok loaded =>
      let e := h.eventOf loaded.config
      ({ result := .ok e, asked := run.asked, warnings := run.warnings ++ h.fullWarnings },
       { h with current := e.snapshot }.notify e)

def reload (h : Holder) (env : Environment) (now : String) (d : Disk) :
    Run ReloadEvent × Holder × Disk :=
  let (run, after) := h.loader.load env now d
  let (answer, next) := h.settle run
  (answer, next, after)

theorem reload_error {h : Holder} {env : Environment} {now : String} {d : Disk} {f : Failure}
    (failed : (h.loader.load env now d).1.result = .error f) :
    (h.reload env now d).2.1 = h := by
  simp [reload, settle, failed]

theorem listener_update_other (h : Holder) {number other : Nat} (change : Listener → Listener)
    (differ : other ≠ number) (keeps : ∀ l, (change l).number = l.number) :
    (h.update number change).listener other = h.listener other := by
  unfold listener update
  induction h.listeners with
  | nil => rfl
  | cons l rest ih =>
      by_cases here : l.number = number
      · have away : l.number ≠ other := fun same => differ (same ▸ here)
        simp [here, keeps, Ne.symm differ, ih]
      · by_cases found : l.number = other
        · simp [found, differ]
        · simp [here, found, ih]

end Holder

end LayeredConfig
