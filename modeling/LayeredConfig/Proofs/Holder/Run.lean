import LayeredConfig.Holder

/-!
# Runs of a holder

A holder lives among variables and a disk that others change.  A run is a list of
steps: reloads, looks at the snapshot, subscriptions, receives, drops of a
receiver, and changes of the surroundings.  Each step gives an answer.  What a
run has to say about a matter is collected along it, step by step.

Results:
1. `collect_append`, `collect_sublist`: what is collected follows the run.
2. `invariant_after`: what every step keeps, every run keeps.
3. `cases_reload`, `cases_receive`: the two things that a reload can do, and
   that a receive can do.
-/

namespace LayeredConfig.Holder

/-- A holder and what its loads read. -/
structure World where
  holder : Holder
  env : Environment
  disk : Disk

/-- What can happen next. -/
inductive Step where
  | reload (now : String)
  | get
  | subscribe (capacity : Nat)
  | receive (number : Nat)
  | drop (number : Nat)
  /-- Others change variables and files in whatever way. -/
  | surroundings (env : Environment) (disk : Disk)

/-- What a step gives back. -/
inductive Answer where
  | reloaded (result : Except Failure ReloadEvent)
  | snapshot (s : Snapshot)
  | subscribed (number : Nat)
  | received (r : Received)
  | done

namespace World

def step (w : World) : Step → Answer × World
  | .reload now =>
      let (run, holder, disk) := w.holder.reload w.env now w.disk
      (.reloaded run.result, { w with holder, disk })
  | .get => (.snapshot w.holder.current, w)
  | .subscribe capacity =>
      let (number, holder) := w.holder.subscribe capacity
      (.subscribed number, { w with holder })
  | .receive number =>
      let (r, holder) := w.holder.receive number
      (.received r, { w with holder })
  | .drop number => (.done, { w with holder := w.holder.drop number })
  | .surroundings env disk => (.done, { w with env, disk })

def next (w : World) (s : Step) : World := (w.step s).2

def after (w : World) (steps : List Step) : World := steps.foldl next w

/-- What a run has to say about a matter: `pick` is asked in front of every step. -/
def collect {α : Type} (pick : World → Step → Option α) : World → List Step → List α
  | _, [] => []
  | w, s :: rest => (pick w s).toList ++ collect pick (w.next s) rest

def reloaded (w : World) (s : Step) : Option ReloadEvent :=
  match (w.step s).1 with
  | .reloaded (.ok e) => some e
  | _ => none

/-- The event that a step hands to a receiver. -/
def handed (number : Nat) (w : World) (s : Step) : Option ReloadEvent :=
  match s, (w.step s).1 with
  | .receive asked, .received (.event e) => if asked = number then some e else none
  | _, _ => none

/-- The events of the reloads that succeed along a run, in order. -/
def reloads : World → List Step → List ReloadEvent := collect reloaded

def received (number : Nat) : World → List Step → List ReloadEvent := collect (handed number)

/-- The events that wait for a receiver. -/
def queued (number : Nat) (w : World) : List ReloadEvent :=
  ((w.holder.listener number).map Listener.queue).getD []

/-- A holder of a configuration that was loaded already, with nobody listening. -/
def start (loader : Loader) (config : Config) (env : Environment) (disk : Disk) : World :=
  { holder := ofConfig loader config, env, disk }

/-! ## Runs -/

variable {α : Type} {pick : World → Step → Option α} {w : World}

@[simp] theorem after_nil (w : World) : w.after [] = w := rfl

@[simp] theorem after_cons (w : World) (s : Step) (rest : List Step) :
    w.after (s :: rest) = (w.next s).after rest := rfl

@[simp] theorem collect_nil (pick : World → Step → Option α) (w : World) :
    collect pick w [] = [] := rfl

@[simp] theorem collect_cons (pick : World → Step → Option α) (w : World) (s : Step)
    (rest : List Step) :
    collect pick w (s :: rest) = (pick w s).toList ++ collect pick (w.next s) rest := rfl

theorem collect_append (pick : World → Step → Option α) (w : World) (front rest : List Step) :
    collect pick w (front ++ rest) =
      collect pick w front ++ collect pick (w.after front) rest := by
  induction front generalizing w with
  | nil => rfl
  | cons s front ih => simp [ih]

/-- What is picked out of what is picked is in the order of the run. -/
theorem collect_sublist {less : World → Step → Option α}
    (within : ∀ w s a, less w s = some a → pick w s = some a) (w : World) (steps : List Step) :
    (collect less w steps).Sublist (collect pick w steps) := by
  induction steps generalizing w with
  | nil => exact List.Sublist.refl []
  | cons s rest ih =>
      have first : (less w s).toList.Sublist (pick w s).toList := by
        cases found : less w s with
        | none => exact List.nil_sublist _
        | some a => simp only [within w s a found, List.Sublist.refl]
      exact first.append (ih (w.next s))

/-- What every step keeps, every run keeps. -/
theorem invariant_after {P : World → Prop} (keeps : ∀ w s, P w → P (w.next s))
    (steps : List Step) (holds : P w) : P (w.after steps) := by
  induction steps generalizing w with
  | nil => exact holds
  | cons s rest ih => exact ih (keeps w s holds)

/-! ## Steps -/

/-- A reload fails and keeps the holder, or swaps the snapshot and notifies. -/
theorem cases_reload (w : World) (now : String) :
    (∃ f, (w.holder.loader.load w.env now w.disk).1.result = .error f ∧
      (w.step (.reload now)).1 = .reloaded (.error f) ∧
      (w.next (.reload now)).holder = w.holder) ∨
    (∃ loaded, (w.holder.loader.load w.env now w.disk).1.result = .ok loaded ∧
      (w.step (.reload now)).1 = .reloaded (.ok (w.holder.eventOf loaded.config)) ∧
      (w.next (.reload now)).holder =
        { w.holder with current := (w.holder.eventOf loaded.config).snapshot }.notify
          (w.holder.eventOf loaded.config)) := by
  cases result : (w.holder.loader.load w.env now w.disk).1.result with
  | error f =>
      refine Or.inl ⟨f, rfl, ?_, ?_⟩
      · simp [step, reload, settle, result]
      · simp [next, step, reload, settle, result]
  | ok loaded =>
      refine Or.inr ⟨loaded, rfl, ?_, ?_⟩
      · simp [step, reload, settle, result]
      · simp [next, step, reload, settle, result]

/-- A receive takes the first event of the queue, or finds none and keeps the holder. -/
theorem cases_receive (w : World) (number : Nat) :
    (∃ l e rest, w.holder.listener number = some l ∧ l.dropped = false ∧ l.queue = e :: rest ∧
      (w.step (.receive number)).1 = .received (.event e) ∧
      (w.next (.receive number)).holder =
        w.holder.update number fun l => { l with queue := rest }) ∨
    ((∀ e, (w.step (.receive number)).1 ≠ .received (.event e)) ∧
      (w.next (.receive number)).holder = w.holder ∧
      ∀ l, w.holder.listener number = some l → l.dropped = false → l.queue = []) := by
  cases found : w.holder.listener number with
  | none =>
      refine Or.inr ⟨?_, ?_, ?_⟩
      · simp [step, receive, found]
      · simp [next, step, receive, found]
      · intro l none
        cases none
  | some l =>
      cases dropped : l.dropped with
      | true =>
          refine Or.inr ⟨?_, ?_, ?_⟩
          · simp [step, receive, found, dropped]
          · simp [next, step, receive, found, dropped]
          · intro l' same live
            cases same
            rw [dropped] at live
            cases live
      | false =>
          cases queue : l.queue with
          | nil =>
              refine Or.inr ⟨?_, ?_, ?_⟩
              · simp [step, receive, found, dropped, queue]
              · simp [next, step, receive, found, dropped, queue]
              · intro l' same _
                cases same
                exact queue
          | cons e rest =>
              refine Or.inl ⟨l, e, rest, rfl, dropped, queue, ?_, ?_⟩
              · simp [step, receive, found, dropped, queue]
              · simp [next, step, receive, found, dropped, queue]

theorem reloaded_eq_some {s : Step} {e : ReloadEvent} (event : w.reloaded s = some e) :
    ∃ now loaded, s = .reload now ∧
      (w.holder.loader.load w.env now w.disk).1.result = .ok loaded ∧
      e = w.holder.eventOf loaded.config ∧
      (w.next s).holder = { w.holder with current := e.snapshot }.notify e := by
  cases s with
  | reload now =>
      rcases cases_reload w now with ⟨f, _, answer, _⟩ | ⟨loaded, load, answer, next⟩
      · simp [reloaded, answer] at event
      · have same : w.holder.eventOf loaded.config = e := by
          simpa [reloaded, answer] using event
        subst same
        exact ⟨now, loaded, rfl, load, rfl, next⟩
  | get | subscribe _ | receive _ | drop _ | surroundings _ _ =>
      simp [reloaded, step] at event

/-- Only a reload that succeeds swaps the snapshot. -/
theorem next_current_of_reloaded_none {s : Step} (none : w.reloaded s = none) :
    (w.next s).holder.current = w.holder.current := by
  cases s with
  | reload now =>
      rcases cases_reload w now with ⟨_, _, _, same⟩ | ⟨loaded, _, answer, _⟩
      · rw [same]
      · simp [reloaded, answer] at none
  | receive number =>
      rcases cases_receive w number with ⟨_, _, _, _, _, _, _, taken⟩ | ⟨_, same, _⟩
      · rw [taken]
        rfl
      · rw [same]
  | get | subscribe _ | drop _ | surroundings _ _ => rfl

theorem next_loader (w : World) (s : Step) :
    (w.next s).holder.loader = w.holder.loader := by
  cases s with
  | reload now =>
      rcases cases_reload w now with ⟨_, _, _, same⟩ | ⟨_, _, _, same⟩
      · rw [same]
      · rw [same]
        rfl
  | receive number =>
      rcases cases_receive w number with ⟨_, _, _, _, _, _, _, taken⟩ | ⟨_, same, _⟩
      · rw [taken]
        rfl
      · rw [same]
  | get | subscribe _ | drop _ | surroundings _ _ => rfl

theorem after_loader (w : World) (steps : List Step) :
    (w.after steps).holder.loader = w.holder.loader :=
  invariant_after (P := fun v => v.holder.loader = w.holder.loader)
    (fun v s same => (next_loader v s).trans same) steps rfl

end World

end LayeredConfig.Holder
