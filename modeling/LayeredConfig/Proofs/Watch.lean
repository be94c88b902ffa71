import LayeredConfig.Watch

/-!
# Changes on their way through the channel

What the system reports is passed on in the order of arrival.  The one who waits
is woken by an event that was not seen yet, and then reads what is the latest by
that time.  The channel keeps one event, so a later one takes the place of an
earlier one that was not read.  All events of changed files are alike in that
they ask for a reload, so one of them may well replace another.  But an event of
a fault asks for none: if it comes in between, the change is lost.

Results:
1. `classify_eq_none_iff`, `classify_reloads`: which reports become events, and
   that these ask for a reload.
2. `take_eq`: to take an event is to be woken and to read.
3. `taken_iff_of_stands`: what is read behind a change.
4. `change_taken_iff`: a change is taken unless a fault replaced it.
-/

namespace LayeredConfig

namespace WatchPaths

variable {w : WatchPaths} {changed : List String}

/-- A watched file is among those that changed. -/
def Touched (w : WatchPaths) (changed : List String) : Prop :=
  ∃ path ∈ changed, path = w.config ∨ w.manifest = some path

instance (w : WatchPaths) (changed : List String) : Decidable (w.Touched changed) :=
  inferInstanceAs (Decidable (∃ path ∈ changed, path = w.config ∨ w.manifest = some path))

theorem classifyOne_eq_none_iff {path : String} :
    w.classifyOne path = none ↔ ¬(path = w.config ∨ w.manifest = some path) := by
  unfold classifyOne
  by_cases config : path = w.config
  · simp [config]
  · by_cases manifest : w.manifest = some path <;> simp [config, manifest]

theorem classify_eq_none_iff : w.classify changed = none ↔ ¬w.Touched changed := by
  have nothing : w.classify changed = none ↔ changed.filterMap w.classifyOne = [] := by
    unfold classify
    cases changed.filterMap w.classifyOne with
    | nil => simp
    | cons e rest =>
        rw [List.eraseDups_cons]
        split <;> simp_all
  rw [nothing, List.filterMap_eq_nil_iff, Touched]
  simp only [classifyOne_eq_none_iff, not_exists, not_and]

/-- An event of changed files asks for a reload. -/
theorem classify_reloads {e : WatchEvent} (found : w.classify changed = some e) :
    e.asksReload = true := by
  unfold classify at found
  split at found
  · cases found
  · next only single =>
    obtain rfl := Option.some.inj found
    have member : only ∈ (changed.filterMap w.classifyOne).eraseDups := by simp [single]
    rw [List.mem_eraseDups] at member
    obtain ⟨path, _, one⟩ := List.mem_filterMap.mp member
    exact classifyOne_reloads one
  · obtain rfl := Option.some.inj found
    rfl

end WatchPaths

namespace WatchChannel

/-- Has the latest event been seen?  The one who waits is woken as soon as it was not. -/
def wake (c : WatchChannel) : Bool × WatchChannel := (c.fresh, { c with fresh := false })

/-- The latest event, which counts as seen from then on. -/
def read (c : WatchChannel) : Option WatchEvent × WatchChannel :=
  (c.latest, { c with fresh := false })

/-- To take an event is to be woken and to read, if nothing is passed on in between. -/
theorem take_eq (c : WatchChannel) :
    c.take = if c.wake.1 then c.wake.2.read else (none, c) := rfl

/-- A watched file is among what the report tells of. -/
def Report.Touches (w : WatchPaths) : Report → Prop
  | .changed paths => w.Touched paths
  | .fault _ => False

/-- The system itself failed. -/
def Report.IsFault : Report → Prop
  | .changed _ => False
  | .fault _ => True

/-- The event that waits in the channel, or was the last one there, asks for a reload. -/
def Asks (c : WatchChannel) : Prop := ∃ e, c.latest = some e ∧ e.asksReload = true

variable {w : WatchPaths} {r : Report}

theorem pass_of_touches (c : WatchChannel) (touches : r.Touches w) :
    (pass w c r).fresh = true ∧ (pass w c r).Asks := by
  cases r with
  | fault text => exact touches.elim
  | changed paths =>
      cases found : w.classify paths with
      | none => exact absurd touches (WatchPaths.classify_eq_none_iff.mp found)
      | some e =>
          simp only [pass, found]
          exact ⟨rfl, e, rfl, WatchPaths.classify_reloads found⟩

theorem pass_of_fault (c : WatchChannel) (fault : r.IsFault) : ¬(pass w c r).Asks := by
  cases r with
  | changed paths => exact fault.elim
  | fault text =>
      rintro ⟨e, latest, asks⟩
      obtain rfl := Option.some.inj latest
      cases asks

theorem pass_of_neither (c : WatchChannel) (quiet : ¬r.Touches w) (sound : ¬r.IsFault) :
    pass w c r = c := by
  cases r with
  | fault text => exact absurd trivial sound
  | changed paths => simp only [pass, WatchPaths.classify_eq_none_iff.mpr quiet]

end WatchChannel

open WatchChannel

/-- The watcher and the one who waits for its events. -/
structure Watching where
  /-- What was reported and is not passed on yet, in the order of arrival. -/
  pending : List Report := []
  channel : WatchChannel := {}
  /-- The one who waits was woken and has not read yet. -/
  awake : Bool := false

namespace Watching

/-- What can happen next. -/
inductive Step where
  | report (r : Report)
  /-- The next report is passed on. -/
  | forward
  /-- The one who waits is woken, if there is an event that was not seen. -/
  | wake
  /-- The one who was woken reads the latest event. -/
  | read

variable {w : WatchPaths} {s : Watching}

def step (w : WatchPaths) (s : Watching) : Step → Option WatchEvent × Watching
  | .report r => (none, { s with pending := s.pending ++ [r] })
  | .forward =>
      match s.pending with
      | [] => (none, s)
      | r :: rest => (none, { s with pending := rest, channel := s.channel.pass w r })
  | .wake =>
      if s.awake then (none, s)
      else (none, { s with awake := s.channel.wake.1, channel := s.channel.wake.2 })
  | .read =>
      if s.awake then (s.channel.read.1, { s with awake := false, channel := s.channel.read.2 })
      else (none, s)

def next (w : WatchPaths) (s : Watching) (x : Step) : Watching := (s.step w x).2

def after (w : WatchPaths) (s : Watching) (run : List Step) : Watching := run.foldl (next w) s

def passing (s : Watching) : Step → Option Report
  | .forward => s.pending.head?
  | .report _ | .wake | .read => none

def passed (w : WatchPaths) : Watching → List Step → List Report
  | _, [] => []
  | s, x :: rest => (s.passing x).toList ++ passed w (s.next w x) rest

/-- The events that are taken along a run, in order.  Those that ask for it are followed by a
reload. -/
def taken (w : WatchPaths) : Watching → List Step → List WatchEvent
  | _, [] => []
  | s, x :: rest => (s.step w x).1.toList ++ taken w (s.next w x) rest

/-- Everything was passed on and seen, and what woke the one who waits was read. -/
structure IsQuiet (s : Watching) : Prop where
  pending : s.pending = []
  seen : s.channel.fresh = false
  asleep : s.awake = false

/-- A fault is passed on before anything is taken. -/
def Overwritten (w : WatchPaths) (s : Watching) (run : List Step) : Prop :=
  ∃ front rest, run = front ++ rest ∧ taken w s front = [] ∧ ∃ r ∈ passed w s front, r.IsFault

/-- The latest event is still to be taken. -/
def Stands (s : Watching) : Prop := s.channel.fresh = true ∨ s.awake = true

/-! ## Steps -/

/-- A step passes on a report, or reads the latest event, or leaves the latest event and whether
it is still to be taken as they are. -/
theorem cases_step (w : WatchPaths) (s : Watching) (x : Step) :
    (∃ r, s.passing x = some r ∧ (s.step w x).1 = none ∧
      (s.next w x).channel = s.channel.pass w r ∧ (s.next w x).awake = s.awake) ∨
    (s.passing x = none ∧ (s.step w x).1 = s.channel.latest ∧
      (s.next w x).channel.latest = s.channel.latest) ∨
    (s.passing x = none ∧ (s.step w x).1 = none ∧
      (s.next w x).channel.latest = s.channel.latest ∧ ((s.next w x).Stands ↔ s.Stands)) := by
  cases x with
  | report r => exact Or.inr (Or.inr ⟨rfl, rfl, rfl, Iff.rfl⟩)
  | forward =>
      cases pending : s.pending with
      | nil => simp [passing, next, step, pending]
      | cons r rest => simp [passing, next, step, pending]
  | wake =>
      refine Or.inr (Or.inr ?_)
      cases awake : s.awake with
      | true => simp [passing, next, step, awake]
      | false => simp [passing, next, step, awake, Stands, WatchChannel.wake]
  | read =>
      cases awake : s.awake with
      | true => simp [passing, next, step, awake, WatchChannel.read]
      | false => simp [passing, next, step, awake]

theorem passed_cons_of_none {x : Step} (nothing : s.passing x = none) (rest : List Step) :
    s.passed w (x :: rest) = (s.next w x).passed w rest := by
  rw [passed, nothing]
  rfl

theorem passed_cons_of_some {x : Step} {r : Report} (passes : s.passing x = some r)
    (rest : List Step) : s.passed w (x :: rest) = r :: (s.next w x).passed w rest := by
  rw [passed, passes]
  rfl

theorem taken_cons_of_none {x : Step} (nothing : (s.step w x).1 = none) (rest : List Step) :
    s.taken w (x :: rest) = (s.next w x).taken w rest := by
  rw [taken, nothing]
  rfl

theorem overwritten_cons {x : Step} {rest : List Step} :
    s.Overwritten w (x :: rest) ↔
      (s.step w x).1 = none ∧
        ((∃ r, s.passing x = some r ∧ r.IsFault) ∨ (s.next w x).Overwritten w rest) := by
  constructor
  · rintro ⟨front, behind, whole, nothing, r, member, fault⟩
    cases front with
    | nil => cases member
    | cons x' front =>
        obtain ⟨rfl, rfl⟩ := List.cons.inj whole
        rw [taken, List.append_eq_nil_iff, Option.toList_eq_nil_iff] at nothing
        refine ⟨nothing.1, ?_⟩
        rw [passed, List.mem_append, Option.mem_toList] at member
        rcases member with here | later
        · exact Or.inl ⟨r, here, fault⟩
        · exact Or.inr ⟨front, behind, rfl, nothing.2, r, later, fault⟩
  · rintro ⟨nothing, ⟨r, passes, fault⟩ | ⟨front, behind, whole, notTaken, r, member, fault⟩⟩
    · refine ⟨[x], rest, rfl, taken_cons_of_none nothing [], r, ?_, fault⟩
      rw [passed_cons_of_some passes]
      exact List.mem_cons_self
    · refine ⟨x :: front, behind, by rw [whole, List.cons_append], ?_, r, ?_, fault⟩
      · rw [taken_cons_of_none nothing, notTaken]
      · rw [passed]
        exact List.mem_append_right _ member

/-! ## Runs -/

variable {run : List Step}

theorem asks_congr {c c' : WatchChannel} (same : c'.latest = c.latest) : c'.Asks ↔ c.Asks := by
  rw [Asks, Asks, same]

/-- Behind a fault, until a watched file changes again, nothing that is taken asks for a reload. -/
theorem asksReload_of_not_asks (silent : ¬s.channel.Asks)
    (untouched : ∀ r ∈ s.passed w run, ¬r.Touches w) :
    ∀ e ∈ s.taken w run, e.asksReload = false := by
  induction run generalizing s with
  | nil => exact nofun
  | cons x rest ih =>
      rcases cases_step w s x with
        ⟨r, passes, nothing, channel, _⟩ | ⟨passes, event, same⟩ | ⟨passes, nothing, same, _⟩
      · rw [passed_cons_of_some passes] at untouched
        rw [taken_cons_of_none nothing]
        obtain ⟨notHere, later⟩ := List.forall_mem_cons.mp untouched
        refine ih ?_ later
        rw [channel]
        by_cases fault : r.IsFault
        · exact pass_of_fault _ fault
        · rw [pass_of_neither _ notHere fault]
          exact silent
      · rw [passed_cons_of_none passes] at untouched
        have behind := ih (s := s.next w x) (by rwa [asks_congr same]) untouched
        intro e member
        rw [taken, event, List.mem_append, Option.mem_toList] at member
        rcases member with here | later
        · rw [← Bool.not_eq_true]
          exact fun asks => silent ⟨e, here, asks⟩
        · exact behind e later
      · rw [passed_cons_of_none passes] at untouched
        rw [taken_cons_of_none nothing]
        exact ih (by rwa [asks_congr same]) untouched

/-- As long as an event that asks for a reload is still to be taken, it is taken in the end, or
another one that asks for a reload, unless a fault takes its place. -/
theorem taken_iff_of_stands (stands : s.Stands) (asks : s.channel.Asks)
    (untouched : ∀ r ∈ s.passed w run, ¬r.Touches w) (quiet : (s.after w run).IsQuiet) :
    (∃ e ∈ s.taken w run, e.asksReload = true) ↔ ¬s.Overwritten w run := by
  induction run generalizing s with
  | nil =>
      rcases stands with fresh | awake
      · exact absurd (fresh.symm.trans quiet.seen) nofun
      · exact absurd (awake.symm.trans quiet.asleep) nofun
  | cons x rest ih =>
      rw [overwritten_cons]
      rcases cases_step w s x with
        ⟨r, passes, nothing, channel, awake⟩ | ⟨passes, event, same⟩ |
          ⟨passes, nothing, same, standsToo⟩
      · rw [passed_cons_of_some passes] at untouched
        obtain ⟨notHere, later⟩ := List.forall_mem_cons.mp untouched
        rw [taken_cons_of_none nothing]
        by_cases fault : r.IsFault
        · -- the fault took the place of the change
          have silent : ¬(s.next w x).channel.Asks := channel ▸ pass_of_fault _ fault
          have none := asksReload_of_not_asks silent later
          refine iff_of_false ?_ fun away => away ⟨nothing, Or.inl ⟨r, passes, fault⟩⟩
          rintro ⟨e, member, asks⟩
          rw [none e member] at asks
          cases asks
        · rw [pass_of_neither _ notHere fault] at channel
          have sound : ¬∃ r, s.passing x = some r ∧ r.IsFault := by
            rintro ⟨r', passes', fault'⟩
            obtain rfl := Option.some.inj (passes.symm.trans passes')
            exact fault fault'
          rw [ih (by rwa [Stands, channel, awake]) (by rwa [channel]) later quiet]
          simp [nothing, sound]
      · -- the event is read
        obtain ⟨e, latest, asks⟩ := asks
        rw [latest] at event
        refine iff_of_true ⟨e, ?_, asks⟩ fun overwritten => ?_
        · rw [taken, event]
          exact List.mem_append_left _ (Option.mem_toList.mpr rfl)
        · exact absurd (event.symm.trans overwritten.1) nofun
      · rw [passed_cons_of_none passes] at untouched
        rw [taken_cons_of_none nothing,
          ih (standsToo.mpr stands) (by rwa [asks_congr same]) untouched quiet]
        simp [nothing, passes]

/-- The last change of a watched file that is passed on in a run, once everything was passed on and
seen, led to a reload, unless a fault was passed on behind it before anything was taken. -/
theorem change_taken_iff (w : WatchPaths) (front rest : List Step) (r : Report)
    (pending : (after w {} front).pending.head? = some r) (touches : r.Touches w)
    (last : ∀ r' ∈ passed w (after w {} (front ++ [.forward])) rest, ¬r'.Touches w)
    (quiet : (after w {} (front ++ .forward :: rest)).IsQuiet) :
    (∃ e ∈ taken w (after w {} (front ++ [.forward])) rest, e.asksReload = true) ↔
      ¬Overwritten w (after w {} (front ++ [.forward])) rest := by
  have split : after w {} (front ++ .forward :: rest) =
      (after w {} (front ++ [.forward])).after w rest := by
    simp [after]
  have behind : after w {} (front ++ [.forward]) = (after w {} front).next w .forward := by
    simp [after]
  rw [split] at quiet
  rw [behind] at last quiet ⊢
  rcases cases_step w (after w {} front) .forward with
    ⟨r', passes, _, channel, _⟩ | ⟨passes, _⟩ | ⟨passes, _⟩
  · obtain rfl := Option.some.inj (pending.symm.trans passes)
    obtain ⟨fresh, asks⟩ := pass_of_touches (after w {} front).channel touches
    rw [← channel] at fresh asks
    exact taken_iff_of_stands (Or.inl fresh) asks last quiet
  · exact absurd (pending.symm.trans passes) nofun
  · exact absurd (pending.symm.trans passes) nofun

/-- A change that is read in time: the fault behind it does no harm. -/
theorem change_taken_iff_read :
    let w : WatchPaths := { config := "/etc/config.yaml" }
    let change : Report := .changed ["/etc/notes.txt", "/etc/config.yaml"]
    let rest : List Step := [.wake, .read, .report (.fault "no space"), .forward, .wake, .read]
    ∃ e ∈ taken w (after w {} [.report change, .forward]) rest, e.asksReload = true := by
  intro w change rest
  have inTime : ¬Overwritten w (after w {} [.report change, .forward]) rest := by
    rw [overwritten_cons, overwritten_cons]
    rintro ⟨_, ⟨_, none, _⟩ | ⟨taken, _⟩⟩
    · cases none
    · cases taken
  have untouched : ∀ r' ∈ passed w (after w {} [.report change, .forward]) rest,
      ¬r'.Touches w := by
    intro r' member
    obtain rfl : r' = .fault "no space" := List.mem_singleton.mp member
    exact id
  have touches : change.Touches w := ⟨"/etc/config.yaml", by decide, Or.inl rfl⟩
  exact (change_taken_iff w [.report change] rest change rfl touches untouched
    ⟨rfl, rfl, rfl⟩).mpr inTime

/-- A change that a fault replaced: everything was passed on and seen, and no reload followed. -/
theorem change_replaced :
    let w : WatchPaths := { config := "/etc/config.yaml" }
    let change : Report := .changed ["/etc/config.yaml"]
    let run : List Step :=
      [.report change, .report (.fault "no space"), .forward, .forward, .wake, .read]
    (after w {} run).IsQuiet ∧ change.Touches w ∧ change ∈ passed w {} run ∧
      taken w {} run = [.fault "no space"] ∧
        ¬∃ e ∈ taken w {} run, e.asksReload = true := by
  intro w change run
  have only : taken w {} run = [.fault "no space"] := by decide
  refine ⟨⟨rfl, rfl, rfl⟩, ⟨"/etc/config.yaml", by decide, Or.inl rfl⟩, by decide, only, ?_⟩
  rw [only]
  decide

end Watching

end LayeredConfig
