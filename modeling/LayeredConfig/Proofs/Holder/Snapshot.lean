import LayeredConfig.Proofs.Holder.Listener

/-!
# The snapshot in force

The snapshot of a holder is that of the latest reload that succeeded, or the
first one.  Each event is linked to the snapshot in front of it: it counts one
further, and its changes are those between the two configurations.  A reload
that fails changes nothing of the holder.

Main statement: `World.reload_run`.
-/

namespace LayeredConfig.Holder

/-- The snapshot behind the events of some reloads. -/
def latest (first : Snapshot) (events : List ReloadEvent) : Snapshot :=
  (events.getLast?.map ReloadEvent.snapshot).getD first

/-- Each event follows on the snapshot in front of it. -/
def Linked (r : Registry) : Snapshot → List ReloadEvent → Prop
  | _, [] => True
  | s, e :: rest =>
      e.snapshot.epoch = s.epoch + 1 ∧
        e.changes = Summary.between r s.config e.snapshot.config ∧ Linked r e.snapshot rest

@[simp] theorem latest_nil (first : Snapshot) : latest first [] = first := rfl

@[simp] theorem latest_cons (first : Snapshot) (e : ReloadEvent) (rest : List ReloadEvent) :
    latest first (e :: rest) = latest e.snapshot rest := by
  cases rest with
  | nil => rfl
  | cons e' rest =>
      rw [latest, latest, List.getLast?_cons_cons]
      simp [List.getLast?_cons]

namespace Linked

variable {r : Registry} {s : Snapshot} {events : List ReloadEvent}

theorem epoch_latest (linked : Linked r s events) :
    (latest s events).epoch = s.epoch + events.length := by
  induction events generalizing s with
  | nil => rfl
  | cons e rest ih =>
      rw [latest_cons, ih linked.2.2, linked.1, List.length_cons]
      omega

theorem epoch_lt (linked : Linked r s events) : ∀ e ∈ events, s.epoch < e.snapshot.epoch := by
  induction events generalizing s with
  | nil => simp
  | cons e rest ih =>
      obtain ⟨count, _, behind⟩ := linked
      intro e' member
      rcases List.mem_cons.mp member with rfl | later
      · omega
      · have := ih behind e' later
        omega

theorem pairwise_epoch (linked : Linked r s events) :
    events.Pairwise fun a b => a.snapshot.epoch < b.snapshot.epoch := by
  induction events generalizing s with
  | nil => exact List.Pairwise.nil
  | cons e rest ih =>
      obtain ⟨_, _, behind⟩ := linked
      exact List.pairwise_cons.mpr ⟨behind.epoch_lt, ih behind⟩

end Linked

namespace World

variable {w : World}

/-- The snapshot after a step is that of its event, if it has one. -/
theorem next_current (w : World) (s : Step) :
    (w.next s).holder.current = latest w.holder.current (w.reloaded s).toList := by
  cases event : w.reloaded s with
  | none => exact next_current_of_reloaded_none event
  | some e =>
      obtain ⟨_, _, _, _, _, next⟩ := reloaded_eq_some event
      rw [next]
      rfl

theorem after_current (w : World) (steps : List Step) :
    (w.after steps).holder.current = latest w.holder.current (w.reloads steps) := by
  induction steps generalizing w with
  | nil => rfl
  | cons s rest ih =>
      rw [after_cons, ih, next_current, reloads, collect_cons]
      cases w.reloaded s <;> simp

theorem linked_reloads (w : World) (steps : List Step) :
    Linked w.holder.loader.registry w.holder.current (w.reloads steps) := by
  induction steps generalizing w with
  | nil => trivial
  | cons s rest ih =>
      have behind := ih (w.next s)
      rw [next_loader, next_current] at behind
      rw [reloads, collect_cons]
      cases event : w.reloaded s with
      | none =>
          rw [event] at behind
          exact behind
      | some e =>
          obtain ⟨_, loaded, _, _, rfl, _⟩ := reloaded_eq_some event
          rw [event] at behind
          exact ⟨rfl, rfl, behind⟩

/-- Along every run, the snapshot in force is that of the latest reload that succeeded,
and counts them; the events are linked.  A look gives that snapshot.  A reload takes
over the configuration that its own load gave, or it fails and keeps the holder. -/
theorem reload_run (loader : Loader) (config : Config) (env : Environment) (disk : Disk)
    (steps : List Step) :
    let first : Snapshot := { config, epoch := 1 }
    let w := (start loader config env disk).after steps
    let events := (start loader config env disk).reloads steps
    let current := w.holder.current
    current = latest first events ∧
      current.epoch = 1 + events.length ∧
      Linked loader.registry first events ∧
      (w.step .get).1 = .snapshot (latest first events) ∧
      ∀ now, match (loader.load w.env now w.disk).1.result with
        | .ok loaded => ∃ e : ReloadEvent,
            (w.step (.reload now)).1 = .reloaded (.ok e) ∧
            e.snapshot = { config := loaded.config, epoch := current.epoch + 1 } ∧
            e.changes = Summary.between loader.registry current.config loaded.config ∧
            (w.next (.reload now)).holder.current = e.snapshot
        | .error f =>
            (w.step (.reload now)).1 = .reloaded (.error f) ∧
            (w.next (.reload now)).holder = w.holder := by
  intro first w events current
  have last : current = latest first events := after_current _ steps
  have linked : Linked loader.registry first events :=
    linked_reloads (start loader config env disk) steps
  have same : w.holder.loader = loader := after_loader _ steps
  refine ⟨last, ?_, linked, ?_, ?_⟩
  · rw [last]
    exact linked.epoch_latest
  · rw [← last]
    rfl
  · intro now
    rcases cases_reload w now with ⟨f, failed, answer, next⟩ | ⟨loaded, load, answer, next⟩
    · rw [same] at failed
      rw [failed]
      exact ⟨answer, next⟩
    · rw [same] at load
      rw [load]
      refine ⟨w.holder.eventOf loaded.config, answer, rfl, ?_, ?_⟩
      · rw [eventOf, same]
      · rw [next]
        rfl

end World

end LayeredConfig.Holder
