import LayeredConfig.Proofs.Holder.Isolation

/-!
# Delivery to listeners

A reload that succeeds strikes off the listeners whose receivers were dropped.
So the list holds then just those that a roster of the steps tells: a
subscription enters the next number behind the others, a drop strikes one out.
With the queue of one listener, and its independence of the others, this is the
whole account of what a reload tells to whom.

Main statement: `World.delivery`.
-/

namespace LayeredConfig.Holder

/-- The receivers that the steps leave, in the order of their subscriptions. -/
structure Roster where
  subscriptions : Nat := 0
  live : List Nat := []

/-- What a step does to the roster. -/
def Roster.enter (r : Roster) : Step → Roster
  | .subscribe _ =>
      { subscriptions := r.subscriptions + 1, live := r.live ++ [r.subscriptions] }
  | .drop number => { r with live := r.live.filter fun n => n ≠ number }
  | .reload _ | .get | .receive _ | .surroundings _ _ => r

def roster (steps : List Step) : Roster := steps.foldl Roster.enter {}

/-- The numbers on the list whose receivers are not dropped. -/
def live (h : Holder) : List Nat := (h.listeners.filter fun l => !l.dropped).map Listener.number

/-- A change that drops nobody keeps the numbers. -/
theorem live_update (h : Holder) (number : Nat) (change : Listener → Listener)
    (keeps : ∀ l, (change l).number = l.number ∧ (change l).dropped = l.dropped) :
    (h.update number change).live = h.live := by
  unfold live update
  induction h.listeners with
  | nil => rfl
  | cons l rest ih =>
      obtain ⟨sameNumber, sameDropped⟩ := keeps l
      by_cases here : l.number = number
      · cases dropped : l.dropped <;> simpa [here, sameNumber, sameDropped, dropped] using ih
      · cases dropped : l.dropped <;> simpa [here, dropped] using ih

theorem live_drop (h : Holder) (number : Nat) :
    (h.drop number).live = h.live.filter fun n => n ≠ number := by
  unfold live drop update
  induction h.listeners with
  | nil => rfl
  | cons l rest ih =>
      by_cases here : l.number = number
      · cases dropped : l.dropped <;> simpa [here, dropped] using ih
      · cases dropped : l.dropped <;> simpa [here, dropped] using ih

theorem live_subscribe (h : Holder) (capacity : Nat) :
    (h.subscribe capacity).2.live = h.live ++ [h.subscriptions] := by
  simp [live, subscribe]

theorem numbers_notify (h : Holder) (e : ReloadEvent) :
    (h.notify e).listeners.map Listener.number = h.live ∧
      ∀ l ∈ (h.notify e).listeners, l.dropped = false := by
  constructor
  · simp [notify, live, Function.comp_def]
  · intro l member
    obtain ⟨a, kept, rfl⟩ := List.mem_map.mp member
    rw [Listener.offer_dropped]
    simpa using (List.mem_filter.mp kept).2

theorem live_notify (h : Holder) (e : ReloadEvent) : (h.notify e).live = h.live := by
  obtain ⟨numbers, allLive⟩ := numbers_notify h e
  rw [← numbers, live, List.filter_eq_self.mpr]
  intro l member
  simp [allLive l member]

namespace World

variable {w : World}

/-- What the roster has to do with the list. -/
def Enrolled (r : Roster) (w : World) : Prop :=
  w.holder.subscriptions = r.subscriptions ∧ w.holder.live = r.live

theorem enrolled_next {r : Roster} (s : Step) (enrolled : Enrolled r w) :
    Enrolled (r.enter s) (w.next s) := by
  obtain ⟨count, numbers⟩ := enrolled
  cases s with
  | reload now =>
      rcases cases_reload w now with ⟨_, _, _, same⟩ | ⟨_, _, _, notified⟩
      · rw [Enrolled, same]
        exact ⟨count, numbers⟩
      · rw [Enrolled, notified, live_notify]
        exact ⟨count, numbers⟩
  | get | surroundings _ _ => exact ⟨count, numbers⟩
  | subscribe capacity =>
      refine ⟨congrArg (· + 1) count, (live_subscribe w.holder capacity).trans ?_⟩
      rw [numbers, count]
      rfl
  | receive number =>
      rcases cases_receive w number with ⟨_, _, rest, _, _, _, _, cut⟩ | ⟨_, same, _⟩
      · have kept := live_update w.holder number (fun l => { l with queue := rest })
          fun _ => ⟨rfl, rfl⟩
        rw [Enrolled, cut, kept]
        exact ⟨count, numbers⟩
      · rw [Enrolled, same]
        exact ⟨count, numbers⟩
  | drop number =>
      refine ⟨count, (live_drop w.holder number).trans ?_⟩
      rw [numbers]
      rfl

theorem enrolled_after {r : Roster} (steps : List Step) (enrolled : Enrolled r w) :
    Enrolled (steps.foldl Roster.enter r) (w.after steps) := by
  induction steps generalizing w r with
  | nil => exact enrolled
  | cons s rest ih => exact ih (enrolled_next s enrolled)

/-- After a reload that succeeds, the list holds the receivers that are not dropped. -/
theorem listeners_of_reloaded {r : Roster} (enrolled : Enrolled r w) {s : Step} {e : ReloadEvent}
    (event : w.reloaded s = some e) :
    (w.next s).holder.listeners.map Listener.number = r.live ∧
      ∀ l ∈ (w.next s).holder.listeners, l.dropped = false := by
  obtain ⟨_, _, _, _, _, next⟩ := reloaded_eq_some event
  rw [next, ← enrolled.2]
  exact numbers_notify _ e

/-- A world that some run leads to. -/
def Reachable (w : World) : Prop :=
  ∃ loader config env disk steps, w = (start loader config env disk).after steps

theorem Reachable.orderly (reachable : w.Reachable) : w.holder.Orderly := by
  obtain ⟨loader, config, env, disk, steps, rfl⟩ := reachable
  exact orderly_after steps (orderly_start loader config env disk)

/-- The account of delivery, behind every run:

* a new listener has a number of its own, and until its receiver is dropped it gets the
  events of the reloads that succeed, in order, but for those that find its queue full;
* what a receiver gets, and what reloads come to, is the same from any other world that
  looks alike to it, by any steps that are the same as far as it is concerned;
* a reload that succeeds leaves on the list the receivers that are not dropped. -/
theorem delivery (loader : Loader) (config : Config) (env : Environment) (disk : Disk)
    (front : List Step) :
    let w := (start loader config env disk).after front
    (∀ capacity steps, .drop w.holder.subscriptions ∉ steps →
      (w.step (.subscribe capacity)).1 = .subscribed w.holder.subscriptions ∧
        Delivers w.holder.subscriptions (max capacity 1) (w.next (.subscribe capacity)) steps) ∧
    (∀ number < w.holder.subscriptions, ∀ w' : World, w'.Reachable →
      number < w'.holder.subscriptions → Alike number w w' →
      ∀ steps steps', steps.filter (Step.concerns number) = steps'.filter (Step.concerns number) →
        w.received number steps = w'.received number steps' ∧
          collect reloadResult w steps = collect reloadResult w' steps') ∧
    (∀ s e, w.reloaded s = some e →
      (w.next s).holder.listeners.map Listener.number = (roster front).live ∧
        ∀ l ∈ (w.next s).holder.listeners, l.dropped = false) := by
  intro w
  have orderly : w.holder.Orderly := orderly_after front (orderly_start loader config env disk)
  refine ⟨?_, ?_, ?_⟩
  · intro capacity steps kept
    have new : (w.next (.subscribe capacity)).holder.listener w.holder.subscriptions =
        some { number := w.holder.subscriptions, capacity := max capacity 1 } :=
      listener_subscribe_new orderly capacity
    have known : (w.next (.subscribe capacity)).Known w.holder.subscriptions :=
      ⟨orderly_subscribe orderly capacity, Nat.lt_succ_self _⟩
    exact ⟨rfl, delivers known ⟨_, new, rfl, rfl⟩ (queued_of_listener new) kept⟩
  · intro number spent w' reachable spent' alike steps steps' concerned
    exact received_eq_of_alike ⟨orderly, spent⟩ ⟨reachable.orderly, spent'⟩ alike concerned
  · intro s e event
    have enrolled : Enrolled (roster front) w :=
      enrolled_after front (w := start loader config env disk) ⟨rfl, rfl⟩
    exact listeners_of_reloaded enrolled event

end World

end LayeredConfig.Holder
