import LayeredConfig.Proofs.Holder.Snapshot

/-!
# The queue of a listener

The queue of a listener is a conserved quantity: what a receiver got and what
still waits for it are together the events that found room, one for each reload
that succeeded while the queue was not full.

Results:
1. `next_listener_of_quiet`, `offered_of_reloaded`, `handed_receive`: what one
   step does to one listener.
2. `received_append_queued`: the law of conservation.
3. `mem_taken_iff`: an event is taken in its own step or never.

Main statement: `World.delivers`, order, and the one way to miss an event.
-/

namespace LayeredConfig.Holder

namespace World

variable {w w' : World} {number capacity : Nat} {s : Step}

def taken (number : Nat) (w : World) (s : Step) : Option ReloadEvent :=
  if (w.holder.listener number).any Listener.hasRoom then w.reloaded s else none

/-- The list is in order, and a listener was given the number. -/
structure Known (number : Nat) (w : World) : Prop where
  orderly : w.holder.Orderly
  spent : number < w.holder.subscriptions

/-- The listener is on the list, its receiver is not dropped, and its queue may hold so
many events. -/
def Listens (number capacity : Nat) (w : World) : Prop :=
  ∃ l, w.holder.listener number = some l ∧ l.dropped = false ∧ l.capacity = capacity

/-- Delivery along a run to a receiver that is not dropped. -/
structure Delivers (number capacity : Nat) (w : World) (steps : List Step) : Prop where
  listens : (w.after steps).Listens number capacity
  /-- What was received and what waits stand in the order of the reloads. -/
  ordered : (w.received number steps ++ (w.after steps).queued number).Sublist (w.reloads steps)
  ascending : (w.received number steps ++ (w.after steps).queued number).Pairwise
    fun a b => a.snapshot.epoch < b.snapshot.epoch
  /-- An event is missing just if the queue was full when it was offered. -/
  missing : ∀ front s rest e, steps = front ++ s :: rest →
    (w.after front).reloaded s = some e →
    (e ∉ w.received number steps ++ (w.after steps).queued number ↔
      ((w.after front).queued number).length = capacity)

/-! ## One step of one listener -/

theorem known_next (w : World) (s : Step) (known : w.Known number) :
    (w.next s).Known number := by
  refine ⟨orderly_next w s known.orderly, Nat.lt_of_lt_of_le known.spent ?_⟩
  cases s with
  | reload now =>
      rcases cases_reload w now with ⟨_, _, _, same⟩ | ⟨_, _, _, notified⟩
      · exact Nat.le_of_eq (same ▸ rfl)
      · exact Nat.le_of_eq (notified ▸ rfl)
  | receive asked =>
      rcases cases_receive w asked with ⟨_, _, _, _, _, _, _, cut⟩ | ⟨_, same, _⟩
      · exact Nat.le_of_eq (cut ▸ rfl)
      · exact Nat.le_of_eq (same ▸ rfl)
  | subscribe _ => exact Nat.le_succ _
  | get | drop _ | surroundings _ _ => exact Nat.le_refl _

/-- What a reload that succeeds does to a listener. -/
theorem next_listener_of_reloaded {e : ReloadEvent} (orderly : w.holder.Orderly)
    (event : w.reloaded s = some e) :
    (w.next s).holder.listener number =
      ((w.holder.listener number).filter fun l => !l.dropped).map (Listener.offer e) := by
  obtain ⟨_, _, _, _, _, next⟩ := reloaded_eq_some event
  have kept := orderly_next w s orderly
  rw [next] at kept ⊢
  have same : ({ w.holder with current := e.snapshot } : Holder).Orderly :=
    ⟨orderly.ascending, orderly.spent, orderly.emptied, orderly.fits⟩
  exact listener_notify same kept

theorem offered_of_reloaded {e : ReloadEvent} {l : Listener} (orderly : w.holder.Orderly)
    (event : w.reloaded s = some e) (found : w.holder.listener number = some l)
    (live : l.dropped = false) : (w.next s).holder.listener number = some (l.offer e) := by
  rw [next_listener_of_reloaded orderly event, found, Option.filter_some, live]
  rfl

/-- A step leaves a listener alone, unless it is a reload that succeeds or names it. -/
theorem next_listener_of_quiet (known : w.Known number) (quiet : w.reloaded s = none)
    (notReceive : s ≠ .receive number) (notDrop : s ≠ .drop number) :
    (w.next s).holder.listener number = w.holder.listener number := by
  cases s with
  | reload now =>
      rcases cases_reload w now with ⟨_, _, _, same⟩ | ⟨_, _, answer, _⟩
      · rw [same]
      · simp [reloaded, answer] at quiet
  | get | surroundings _ _ => rfl
  | subscribe capacity => exact listener_subscribe_other (Nat.ne_of_lt known.spent)
  | receive asked =>
      have other : number ≠ asked := fun same => notReceive (same ▸ rfl)
      rcases cases_receive w asked with ⟨_, _, _, _, _, _, _, cut⟩ | ⟨_, same, _⟩
      · rw [cut]
        exact listener_update_other _ _ other fun _ => rfl
      · rw [same]
  | drop asked =>
      have other : number ≠ asked := fun same => notDrop (same ▸ rfl)
      exact listener_update_other _ _ other fun _ => rfl

theorem handed_of_ne (other : s ≠ .receive number) : w.handed number s = none := by
  cases s with
  | receive asked =>
      have differ : asked ≠ number := fun same => other (same ▸ rfl)
      unfold handed
      split
      · next same _ =>
          cases same
          exact if_neg differ
      · rfl
  | reload _ | get | subscribe _ | drop _ | surroundings _ _ => rfl

theorem handed_of_no_event
    (answer : ∀ e, (w.step (.receive number)).1 ≠ .received (.event e)) :
    w.handed number (.receive number) = none := by
  unfold handed
  split
  · next e _ event => exact absurd event (answer e)
  · rfl

/-- A receiver that is not dropped takes the first event that waits, if one does. -/
theorem handed_receive {l : Listener} (found : w.holder.listener number = some l)
    (live : l.dropped = false) :
    w.handed number (.receive number) = l.queue.head? ∧
      (w.next (.receive number)).holder.listener number =
        some { l with queue := l.queue.tail } := by
  rcases cases_receive w number with
    ⟨l', e, rest, found', _, queue, answer, cut⟩ | ⟨answer, same, empty⟩
  · have one : l' = l := Option.some.inj (found'.symm.trans found)
    subst one
    refine ⟨?_, ?_⟩
    · simp [handed, answer, queue]
    · have own := listener_update_same w.holder number (fun l => { l with queue := rest })
        fun _ => rfl
      rw [cut, own, found, queue]
      rfl
  · have none : l.queue = [] := empty l found live
    refine ⟨?_, ?_⟩
    · rw [handed_of_no_event answer, none]
      rfl
    · rw [same, found]
      cases l
      cases none
      rfl

/-! ## Conservation -/

theorem queued_of_listener {l : Listener} (found : w.holder.listener number = some l) :
    w.queued number = l.queue := by
  simp [queued, found]

theorem taken_of_none (quiet : w.reloaded s = none) : w.taken number s = none := by
  simp [taken, quiet]

/-- One step: what is handed over leaves the queue in front, what is taken enters it
behind. -/
theorem handed_append_queued (known : w.Known number) {l : Listener}
    (found : w.holder.listener number = some l) (live : l.dropped = false)
    (kept : s ≠ .drop number) :
    (w.handed number s).toList ++ (w.next s).queued number =
      w.queued number ++ (w.taken number s).toList := by
  rw [queued_of_listener found]
  by_cases receives : s = .receive number
  · subst receives
    obtain ⟨first, rest⟩ := handed_receive found live
    have quiet : w.reloaded (.receive number) = none := rfl
    rw [taken_of_none quiet, first, queued_of_listener rest]
    cases l.queue <;> simp
  rw [handed_of_ne receives]
  cases event : w.reloaded s with
  | none =>
      have same := next_listener_of_quiet known event receives kept
      rw [taken_of_none event, queued_of_listener (same.trans found)]
      simp
  | some e =>
      have offered := offered_of_reloaded known.orderly event found live
      rw [queued_of_listener offered, Listener.offer_queue e live]
      cases room : l.hasRoom <;> simp [taken, found, room, event]

theorem listens_next (known : w.Known number) (listens : w.Listens number capacity)
    (kept : s ≠ .drop number) : (w.next s).Listens number capacity := by
  obtain ⟨l, found, live, rfl⟩ := listens
  by_cases receives : s = .receive number
  · subst receives
    exact ⟨_, (handed_receive found live).2, live, rfl⟩
  cases event : w.reloaded s with
  | none =>
      have same := next_listener_of_quiet known event receives kept
      exact ⟨l, same.trans found, live, rfl⟩
  | some e =>
      have offered := offered_of_reloaded known.orderly event found live
      refine ⟨l.offer e, offered, ?_, Listener.offer_capacity e l⟩
      rw [Listener.offer_dropped]
      exact live

/-- Along a run that does not drop the receiver: the listener stays, and what it received
with what waits is what waited at first with what it took. -/
theorem received_append_queued (known : w.Known number) (listens : w.Listens number capacity)
    {steps : List Step} (kept : .drop number ∉ steps) :
    (w.after steps).Known number ∧ (w.after steps).Listens number capacity ∧
      w.received number steps ++ (w.after steps).queued number =
        w.queued number ++ collect (taken number) w steps := by
  induction steps generalizing w with
  | nil => exact ⟨known, listens, by simp [received]⟩
  | cons s rest ih =>
      have notDrop : s ≠ .drop number := fun same => kept (same ▸ List.mem_cons_self)
      have known' := known_next w s known
      have listens' := listens_next known listens notDrop
      obtain ⟨knownEnd, listensEnd, law⟩ :=
        ih known' listens' fun later => kept (List.mem_cons_of_mem s later)
      obtain ⟨l, found, live, _⟩ := listens
      have first := handed_append_queued known found live notDrop
      refine ⟨knownEnd, listensEnd, ?_⟩
      calc w.received number (s :: rest) ++ (w.after (s :: rest)).queued number
          = (w.handed number s).toList ++
              ((w.next s).received number rest ++ ((w.next s).after rest).queued number) := by
            simp [received]
        _ = ((w.handed number s).toList ++ (w.next s).queued number) ++
              collect (taken number) (w.next s) rest := by
            rw [law, List.append_assoc]
        _ = w.queued number ++ collect (taken number) w (s :: rest) := by
            rw [first, collect_cons, List.append_assoc]

/-! ## Missing events -/

theorem reloaded_of_taken {e : ReloadEvent} (took : w.taken number s = some e) :
    w.reloaded s = some e := by
  unfold taken at took
  split at took
  · exact took
  · cases took

theorem taken_sublist (w : World) (steps : List Step) :
    (collect (taken number) w steps).Sublist (w.reloads steps) :=
  collect_sublist (fun _ _ _ => reloaded_of_taken) w steps

/-- A listener that is not dropped has room unless its queue is as long as it may be. -/
theorem hasRoom_eq_false_iff {l : Listener} (live : l.dropped = false)
    (fits : l.queue.length ≤ l.capacity) : l.hasRoom = false ↔ l.queue.length = l.capacity := by
  have full : l.hasRoom = false ↔ l.capacity ≤ l.queue.length := by
    simp [Listener.hasRoom, Listener.isFull, live]
  rw [full]
  omega

/-- Epochs tell the events of a run apart, so an event was taken just if it was taken in
its own step. -/
theorem mem_taken_iff {front rest : List Step} {e : ReloadEvent}
    (event : (w.after front).reloaded s = some e) :
    e ∈ collect (taken number) w (front ++ s :: rest) ↔
      (w.after front).taken number s = some e := by
  have linked := (linked_reloads w (front ++ s :: rest)).pairwise_epoch
  have split : w.reloads (front ++ s :: rest) =
      w.reloads front ++ e :: ((w.after front).next s).reloads rest := by
    simp [reloads, collect_append, event]
  rw [split, List.pairwise_append] at linked
  obtain ⟨_, behind, inFront⟩ := linked
  have notFront : e ∉ collect (taken number) w front := by
    intro member
    have less := inFront e ((taken_sublist w front).subset member) e List.mem_cons_self
    exact Nat.lt_irrefl _ less
  have notRest : e ∉ collect (taken number) ((w.after front).next s) rest := by
    intro member
    have less := (List.pairwise_cons.mp behind).1 e ((taken_sublist _ rest).subset member)
    exact Nat.lt_irrefl _ less
  rw [collect_append, collect_cons]
  simp [notFront, notRest]

/-- A receiver that is not dropped gets its events in order and misses none but those
that found its queue full. -/
theorem delivers (known : w.Known number) (listens : w.Listens number capacity)
    (fresh : w.queued number = []) {steps : List Step} (kept : .drop number ∉ steps) :
    Delivers number capacity w steps := by
  obtain ⟨_, listensEnd, law⟩ := received_append_queued known listens kept
  rw [fresh, List.nil_append] at law
  have linked := linked_reloads w steps
  refine ⟨listensEnd, ?_, ?_, ?_⟩
  · rw [law]
    exact taken_sublist w steps
  · rw [law]
    exact linked.pairwise_epoch.sublist (taken_sublist w steps)
  · rintro front s rest e rfl event
    rw [law, mem_taken_iff event]
    have keptFront : .drop number ∉ front := fun early => kept (List.mem_append_left _ early)
    obtain ⟨knownThere, ⟨l, found, live, rfl⟩, _⟩ :=
      received_append_queued known listens keptFront
    have fits := knownThere.orderly.fits l
      ((listener_eq_some_iff knownThere.orderly).mp found).1
    rw [queued_of_listener found, ← hasRoom_eq_false_iff live fits]
    cases room : l.hasRoom <;> simp [taken, found, room, event]

end World

end LayeredConfig.Holder
