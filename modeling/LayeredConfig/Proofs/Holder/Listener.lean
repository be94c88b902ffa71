import LayeredConfig.Proofs.Holder.Run

/-!
# The list of listeners

Listeners stand in the order of their subscriptions, each under a number of its
own.  So a listener is found by its number, and what is done to the list can be
said of each listener alone.

Results:
1. `listener_eq_some_iff`: a number finds the listener on the list.
2. `listener_notify`, `listener_update_same`, `listener_subscribe_other`,
   `listener_subscribe_new`: what becomes of one listener.
3. `orderly_after`: every run keeps the list in order.
-/

namespace LayeredConfig

namespace Listener

/-- Does a listener take an event? -/
def hasRoom (l : Listener) : Bool := !l.dropped && !l.isFull

@[simp] theorem offer_number (e : ReloadEvent) (l : Listener) : (l.offer e).number = l.number := by
  unfold offer
  split <;> rfl

@[simp] theorem offer_dropped (e : ReloadEvent) (l : Listener) :
    (l.offer e).dropped = l.dropped := by
  unfold offer
  split <;> rfl

@[simp] theorem offer_capacity (e : ReloadEvent) (l : Listener) :
    (l.offer e).capacity = l.capacity := by
  unfold offer
  split <;> rfl

theorem offer_queue (e : ReloadEvent) {l : Listener} (live : l.dropped = false) :
    (l.offer e).queue = l.queue ++ if l.hasRoom then [e] else [] := by
  unfold offer hasRoom
  cases full : l.isFull with
  | true => simp
  | false => simp [live]

end Listener

namespace Holder

variable {h : Holder} {number : Nat}

/-- The list is in order: the numbers ascend and are spent, what was dropped has no
queue, and no queue is longer than it may be. -/
structure Orderly (h : Holder) : Prop where
  ascending : h.listeners.Pairwise fun a b => a.number < b.number
  spent : ∀ l ∈ h.listeners, l.number < h.subscriptions
  emptied : ∀ l ∈ h.listeners, l.dropped = true → l.queue = []
  fits : ∀ l ∈ h.listeners, l.queue.length ≤ l.capacity

/-! ## One listener -/

theorem listener_eq_some_iff (orderly : h.Orderly) {l : Listener} :
    h.listener number = some l ↔ l ∈ h.listeners ∧ l.number = number := by
  constructor
  · intro found
    exact ⟨List.mem_of_find?_eq_some found, by simpa using List.find?_some found⟩
  · rintro ⟨member, rfl⟩
    obtain ⟨front, rest, split⟩ := List.append_of_mem member
    have ascending := orderly.ascending
    rw [split] at ascending
    -- nothing in front of the listener has its number
    have before : front.find? (fun a => a.number = l.number) = none := by
      rw [List.find?_eq_none]
      intro a inFront
      have less := (List.pairwise_append.mp ascending).2.2 a inFront l List.mem_cons_self
      simpa using Nat.ne_of_lt less
    simp [listener, split, List.find?_append, before]

theorem listener_spent (orderly : h.Orderly) {l : Listener} (found : h.listener number = some l) :
    number < h.subscriptions := by
  obtain ⟨member, rfl⟩ := (listener_eq_some_iff orderly).mp found
  exact orderly.spent l member

theorem listener_notify (orderly : h.Orderly) {e : ReloadEvent} (next : (h.notify e).Orderly) :
    (h.notify e).listener number =
      ((h.listener number).filter fun l => !l.dropped).map (Listener.offer e) := by
  ext l
  rw [listener_eq_some_iff next]
  simp only [Option.map_eq_some_iff, Option.filter_eq_some_iff, listener_eq_some_iff orderly,
    notify, List.mem_map, List.mem_filter]
  constructor
  · rintro ⟨⟨a, ⟨member, live⟩, rfl⟩, rfl⟩
    exact ⟨a, ⟨⟨member, (Listener.offer_number e a).symm⟩, live⟩, rfl⟩
  · rintro ⟨a, ⟨⟨member, rfl⟩, live⟩, rfl⟩
    exact ⟨⟨a, ⟨member, live⟩, rfl⟩, Listener.offer_number e a⟩

theorem listener_update_same (h : Holder) (number : Nat) (change : Listener → Listener)
    (keeps : ∀ l, (change l).number = l.number) :
    (h.update number change).listener number = (h.listener number).map change := by
  unfold listener update
  induction h.listeners with
  | nil => rfl
  | cons l rest ih =>
      by_cases here : l.number = number
      · simp [here, keeps]
      · simp [here, ih]

theorem listener_subscribe_other {capacity : Nat} (other : number ≠ h.subscriptions) :
    (h.subscribe capacity).2.listener number = h.listener number := by
  simp [listener, subscribe, List.find?_append, Ne.symm other]

theorem listener_subscribe_new (orderly : h.Orderly) (capacity : Nat) :
    (h.subscribe capacity).2.listener h.subscriptions =
      some { number := h.subscriptions, capacity := max capacity 1 } := by
  have fresh : h.listener h.subscriptions = none := by
    rw [Option.eq_none_iff_forall_ne_some]
    intro l found
    exact Nat.lt_irrefl _ (listener_spent orderly found)
  unfold listener at fresh
  simp [listener, subscribe, List.find?_append, fresh]

/-! ## The whole list -/

theorem orderly_notify (orderly : h.Orderly) (current : Snapshot) (e : ReloadEvent) :
    ({ h with current }.notify e).Orderly where
  ascending := by
    rw [notify, List.pairwise_map]
    refine (orderly.ascending.filter _).imp ?_
    intro a b less
    simpa using less
  spent := by
    intro l member
    obtain ⟨a, kept, rfl⟩ := List.mem_map.mp member
    rw [Listener.offer_number]
    exact orderly.spent a (List.mem_filter.mp kept).1
  emptied := by
    intro l member dropped
    obtain ⟨a, kept, rfl⟩ := List.mem_map.mp member
    have live : a.dropped = false := by simpa using (List.mem_filter.mp kept).2
    rw [Listener.offer_dropped, live] at dropped
    cases dropped
  fits := by
    intro l member
    obtain ⟨a, kept, rfl⟩ := List.mem_map.mp member
    exact Listener.offer_length e (orderly.fits a (List.mem_filter.mp kept).1)

theorem orderly_subscribe (orderly : h.Orderly) (capacity : Nat) :
    (h.subscribe capacity).2.Orderly where
  ascending := by
    rw [subscribe, List.pairwise_append]
    refine ⟨orderly.ascending, List.pairwise_singleton _ _, ?_⟩
    intro a inFront b new
    obtain rfl := List.mem_singleton.mp new
    exact orderly.spent a inFront
  spent := by
    intro l member
    rcases List.mem_append.mp member with old | new
    · exact Nat.lt_succ_of_lt (orderly.spent l old)
    · obtain rfl := List.mem_singleton.mp new
      exact Nat.lt_succ_self _
  emptied := by
    intro l member dropped
    rcases List.mem_append.mp member with old | new
    · exact orderly.emptied l old dropped
    · obtain rfl := List.mem_singleton.mp new
      rfl
  fits := by
    intro l member
    rcases List.mem_append.mp member with old | new
    · exact orderly.fits l old
    · obtain rfl := List.mem_singleton.mp new
      exact Nat.zero_le _

/-- A change of one listener that keeps its number, and what the order asks of it. -/
theorem orderly_update (orderly : h.Orderly) {change : Listener → Listener}
    (keeps : ∀ l, (change l).number = l.number)
    (empties : ∀ l ∈ h.listeners, l.number = number →
      (change l).dropped = true → (change l).queue = [])
    (fits : ∀ l ∈ h.listeners, l.number = number →
      (change l).queue.length ≤ (change l).capacity) :
    (h.update number change).Orderly where
  ascending := by
    rw [update, List.pairwise_map]
    refine orderly.ascending.imp ?_
    intro a b less
    split <;> split <;> simpa [keeps] using less
  spent := by
    intro l member
    obtain ⟨a, old, rfl⟩ := List.mem_map.mp member
    have below := orderly.spent a old
    split
    · rw [keeps]
      exact below
    · exact below
  emptied := by
    intro l member
    obtain ⟨a, old, rfl⟩ := List.mem_map.mp member
    split
    · next same => exact empties a old same
    · exact orderly.emptied a old
  fits := by
    intro l member
    obtain ⟨a, old, rfl⟩ := List.mem_map.mp member
    split
    · next same => exact fits a old same
    · exact orderly.fits a old

namespace World

variable {w : World}

theorem orderly_next (w : World) (s : Step) (orderly : w.holder.Orderly) :
    (w.next s).holder.Orderly := by
  cases s with
  | reload now =>
      rcases cases_reload w now with ⟨_, _, _, same⟩ | ⟨_, _, _, notified⟩
      · rw [same]
        exact orderly
      · rw [notified]
        exact orderly_notify orderly _ _
  | get => exact orderly
  | subscribe capacity => exact orderly_subscribe orderly capacity
  | receive asked =>
      rcases cases_receive w asked with ⟨l, e, rest, found, live, queue, _, taken⟩ | ⟨_, same, _⟩
      · rw [taken]
        -- the number names one listener, so the queue that is cut short is its own
        have only : ∀ a ∈ w.holder.listeners, a.number = asked → a = l := by
          intro a member number
          have same := (listener_eq_some_iff orderly).mpr ⟨member, number⟩
          exact Option.some.inj (same.symm.trans found)
        refine orderly_update orderly (fun _ => rfl) ?_ ?_
        · intro a member number dropped
          rw [only a member number] at dropped
          exact absurd (live.symm.trans dropped) Bool.false_ne_true
        · intro a member number
          have fits := orderly.fits a member
          rw [only a member number, queue] at fits
          rw [only a member number]
          exact Nat.le_of_succ_le fits
      · rw [same]
        exact orderly
  | drop asked =>
      exact orderly_update orderly (fun _ => rfl) (fun _ _ _ _ => rfl)
        (fun _ _ _ => Nat.zero_le _)
  | surroundings env disk => exact orderly

theorem orderly_start (loader : Loader) (config : Config) (env : Environment) (disk : Disk) :
    (start loader config env disk).holder.Orderly where
  ascending := List.Pairwise.nil
  spent := by simp [start, ofConfig]
  emptied := by simp [start, ofConfig]
  fits := by simp [start, ofConfig]

theorem orderly_after (steps : List Step) (orderly : w.holder.Orderly) :
    (w.after steps).holder.Orderly :=
  invariant_after (P := fun w => w.holder.Orderly) orderly_next steps orderly

end World

end Holder

end LayeredConfig
