import LayeredConfig.Proofs.Holder.Queue

/-!
# Listeners do not disturb each other

What a listener receives, and what reloads come to, is read off the reloads, the
surroundings, and the steps that name the listener.  Other listeners may be full
or empty, be dropped, or come and go: two worlds that look alike to a listener
go on looking alike.

Results:
1. `alike_next`, `alike_skip`: one step that concerns the listener, and one that
   does not.
2. `collect_eq_of_alike`: what is collected along two runs.

Main statement: `World.received_eq_of_alike`.
-/

namespace LayeredConfig.Holder

/-- Is a step of consequence for a listener?  Receives and drops of others are not, nor
are subscriptions. -/
def Step.concerns (number : Nat) : Step → Bool
  | .reload _ | .get | .surroundings _ _ => true
  | .subscribe _ => false
  | .receive asked | .drop asked => asked = number

namespace World

variable {w w' : World} {number : Nat} {s : Step}

def reloadResult (w : World) (s : Step) : Option (Except Failure ReloadEvent) :=
  match (w.step s).1 with
  | .reloaded result => some result
  | _ => none

/-- Two worlds look alike to a listener. -/
structure Alike (number : Nat) (w w' : World) : Prop where
  env : w.env = w'.env
  disk : w.disk = w'.disk
  loader : w.holder.loader = w'.holder.loader
  current : w.holder.current = w'.holder.current
  listener : w.holder.listener number = w'.holder.listener number

namespace Alike

theorem symm (alike : Alike number w w') : Alike number w' w :=
  ⟨alike.env.symm, alike.disk.symm, alike.loader.symm, alike.current.symm, alike.listener.symm⟩

/-- The loads of two such worlds are one load. -/
theorem load (alike : Alike number w w') (now : String) :
    w.holder.loader.load w.env now w.disk = w'.holder.loader.load w'.env now w'.disk := by
  rw [alike.env, alike.disk, alike.loader]

theorem eventOf (alike : Alike number w w') (config : Config) :
    w.holder.eventOf config = w'.holder.eventOf config := by
  simp [Holder.eventOf, alike.current, alike.loader]

/-- Both give the same answer to a reload. -/
theorem answer_reload (alike : Alike number w w') (now : String) :
    (w.step (.reload now)).1 = (w'.step (.reload now)).1 := by
  have load := alike.load now
  rcases cases_reload w now with ⟨f, failed, answer, _⟩ | ⟨loaded, ok, answer, _⟩
  · rw [load] at failed
    rcases cases_reload w' now with ⟨f', failed', answer', _⟩ | ⟨_, ok', _, _⟩
    · obtain rfl : f = f' := Except.error.inj (failed.symm.trans failed')
      rw [answer, answer']
    · cases failed.symm.trans ok'
  · rw [load] at ok
    rcases cases_reload w' now with ⟨_, failed', _, _⟩ | ⟨loaded', ok', answer', _⟩
    · cases ok.symm.trans failed'
    · obtain rfl : loaded = loaded' := Except.ok.inj (ok.symm.trans ok')
      rw [answer, answer', alike.eventOf]

theorem reloadResult (alike : Alike number w w') (s : Step) :
    w.reloadResult s = w'.reloadResult s := by
  cases s with
  | reload now => simp only [World.reloadResult, alike.answer_reload now]
  | get | subscribe _ | receive _ | drop _ | surroundings _ _ => rfl

theorem reloaded (alike : Alike number w w') (s : Step) : w.reloaded s = w'.reloaded s := by
  cases s with
  | reload now => simp only [World.reloaded, alike.answer_reload now]
  | get | subscribe _ | receive _ | drop _ | surroundings _ _ => rfl

/-- Both receivers find the same in their queues. -/
theorem receive (alike : Alike number w w') :
    w.handed number (.receive number) = w'.handed number (.receive number) ∧
      (w.next (.receive number)).holder.listener number =
        (w'.next (.receive number)).holder.listener number := by
  have same := alike.listener
  rcases cases_receive w number with
    ⟨l, e, rest, found, live, queue, _⟩ | ⟨answer, holder, empty⟩
  · obtain ⟨first, behind⟩ := handed_receive found live
    rw [same] at found
    obtain ⟨first', behind'⟩ := handed_receive found live
    exact ⟨first.trans first'.symm, behind.trans behind'.symm⟩
  · rcases cases_receive w' number with
      ⟨l, e, rest, found, live, queue, _⟩ | ⟨answer', holder', _⟩
    · rw [← same] at found
      rw [empty l found live] at queue
      cases queue
    · refine ⟨?_, ?_⟩
      · rw [handed_of_no_event answer, handed_of_no_event answer']
      · rw [holder, holder', same]

end Alike

/-- A step that concerns the listener keeps two worlds alike and hands over the same. -/
theorem alike_next (known : w.Known number) (known' : w'.Known number)
    (alike : Alike number w w') (concerned : s.concerns number = true) :
    Alike number (w.next s) (w'.next s) ∧ w.handed number s = w'.handed number s := by
  have loader : (w.next s).holder.loader = (w'.next s).holder.loader := by
    rw [next_loader, next_loader, alike.loader]
  have current : (w.next s).holder.current = (w'.next s).holder.current := by
    rw [next_current, next_current, alike.current, alike.reloaded]
  cases s with
  | subscribe _ => cases concerned
  | get =>
      exact ⟨alike, rfl⟩
  | surroundings env disk =>
      exact ⟨⟨rfl, rfl, loader, current, alike.listener⟩, rfl⟩
  | receive asked =>
      obtain rfl : asked = number := by simpa [Step.concerns] using concerned
      obtain ⟨handed, listener⟩ := alike.receive
      exact ⟨⟨alike.env, alike.disk, loader, current, listener⟩, handed⟩
  | drop asked =>
      obtain rfl : asked = number := by simpa [Step.concerns] using concerned
      refine ⟨⟨alike.env, alike.disk, loader, current, ?_⟩, rfl⟩
      have own (v : World) := listener_update_same v.holder asked
        (fun l => { l with dropped := true, queue := [] }) fun _ => rfl
      exact (own w).trans (alike.listener ▸ (own w').symm)
  | reload now =>
      have disk : (w.next (.reload now)).disk = (w'.next (.reload now)).disk := by
        have same := congrArg Prod.snd (alike.load now)
        exact same
      refine ⟨⟨alike.env, disk, loader, current, ?_⟩, rfl⟩
      cases event : w.reloaded (.reload now) with
      | none =>
          have event' := (alike.reloaded _).symm.trans event
          rw [next_listener_of_quiet known event nofun nofun,
            next_listener_of_quiet known' event' nofun nofun, alike.listener]
      | some e =>
          have event' := (alike.reloaded _).symm.trans event
          rw [next_listener_of_reloaded known.orderly event,
            next_listener_of_reloaded known'.orderly event', alike.listener]

/-- A step that does not concern the listener is not seen by it. -/
theorem alike_skip (known : w.Known number) (alike : Alike number w w')
    (apart : s.concerns number = false) :
    Alike number (w.next s) w' ∧ w.handed number s = none ∧ w.reloadResult s = none := by
  have notReceive : s ≠ .receive number := by
    rintro rfl
    simp [Step.concerns] at apart
  have notDrop : s ≠ .drop number := by
    rintro rfl
    simp [Step.concerns] at apart
  have quiet : w.reloaded s = none ∧ w.reloadResult s = none ∧
      (w.next s).env = w.env ∧ (w.next s).disk = w.disk := by
    cases s with
    | reload _ | get | surroundings _ _ => cases apart
    | subscribe _ | receive _ | drop _ => exact ⟨rfl, rfl, rfl, rfl⟩
  obtain ⟨event, result, env, disk⟩ := quiet
  have listener := next_listener_of_quiet known event notReceive notDrop
  refine ⟨⟨env.trans alike.env, disk.trans alike.disk, ?_, ?_, listener.trans alike.listener⟩,
    handed_of_ne notReceive, result⟩
  · rw [next_loader, alike.loader]
  · rw [next_current_of_reloaded_none event, alike.current]

section Runs

variable {α : Type} {pick : World → Step → Option α}
  (same : ∀ {v v' : World} {s : Step}, v.Known number → v'.Known number →
    Alike number v v' → s.concerns number = true → pick v s = pick v' s)
  (silent : ∀ {v v' : World} {s : Step}, v.Known number → Alike number v v' →
    s.concerns number = false → pick v s = none)

include same silent

/-- What is collected along a run is collected along the steps that concern the listener,
from any world that looks alike to it. -/
theorem collect_filter (known : w.Known number) (known' : w'.Known number)
    (alike : Alike number w w') (steps : List Step) :
    collect pick w steps = collect pick w' (steps.filter (Step.concerns number)) := by
  induction steps generalizing w w' with
  | nil => rfl
  | cons s rest ih =>
      cases concerned : s.concerns number with
      | true =>
          obtain ⟨next, _⟩ := alike_next known known' alike concerned
          rw [List.filter_cons_of_pos concerned, collect_cons, collect_cons,
            same known known' alike concerned,
            ih (known_next w s known) (known_next w' s known') next]
      | false =>
          obtain ⟨next, _, _⟩ := alike_skip known alike concerned
          rw [List.filter_cons_of_neg (by simp [concerned]), collect_cons,
            silent known alike concerned, ih (known_next w s known) known' next]
          rfl

/-- Two runs with the same steps as far as the listener is concerned collect the same. -/
theorem collect_eq_of_alike (known : w.Known number) (known' : w'.Known number)
    (alike : Alike number w w') {steps steps' : List Step}
    (concerned : steps.filter (Step.concerns number) = steps'.filter (Step.concerns number)) :
    collect pick w steps = collect pick w' steps' := by
  have here : Alike number w w := ⟨rfl, rfl, rfl, rfl, rfl⟩
  calc collect pick w steps
      = collect pick w (steps.filter (Step.concerns number)) :=
        collect_filter same silent known known here steps
    _ = collect pick w (steps'.filter (Step.concerns number)) := by rw [concerned]
    _ = collect pick w' steps' :=
        (collect_filter same silent known' known alike.symm steps').symm

end Runs

/-- The receiver gets the same events, and the reloads come to the same. -/
theorem received_eq_of_alike (known : w.Known number) (known' : w'.Known number)
    (alike : Alike number w w') {steps steps' : List Step}
    (concerned : steps.filter (Step.concerns number) = steps'.filter (Step.concerns number)) :
    w.received number steps = w'.received number steps' ∧
      collect reloadResult w steps = collect reloadResult w' steps' := by
  constructor
  · refine collect_eq_of_alike ?_ ?_ known known' alike concerned
    · intro v v' s known known' alike concerned
      exact (alike_next known known' alike concerned).2
    · intro v v' s known alike apart
      exact (alike_skip known alike apart).2.1
  · refine collect_eq_of_alike ?_ ?_ known known' alike concerned
    · intro v v' s _ _ alike _
      exact alike.reloadResult s
    · intro v v' s known alike apart
      exact (alike_skip known alike apart).2.2

end World

end LayeredConfig.Holder
