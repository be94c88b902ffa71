import LayeredConfig.Proofs.Change.Chain
import LayeredConfig.Proofs.Holder.Snapshot
import LayeredConfig.Proofs.Load

/-!
# What a listener knows of the changes

Each event of a reload tells the changes since the snapshot in front of it.  A
listener that got them all knows every setting that differs between the snapshot
it started from and the last one, and whether a restart is needed: a setting that
differs in the end was reported on the way.

Main statement: `World.changes_between_ends`.
-/

namespace LayeredConfig.Holder

/-- What changed over some reloads is told by one of their events. -/
theorem Linked.exists_event {r : Registry} {first : Snapshot} {events : List ReloadEvent}
    (linked : Linked r first events) (some : events ≠ []) {change : Change}
    (ends : change ∈ (Summary.between r first.config (latest first events).config).changes) :
    ∃ e, e ∈ events ∧ change ∈ e.changes.changes := by
  induction events generalizing first with
  | nil => exact absurd rfl some
  | cons e rest ih =>
      obtain ⟨_, changes, behind⟩ := linked
      rw [latest_cons] at ends
      by_cases last : rest = []
      · subst last
        refine ⟨e, List.mem_cons_self, ?_⟩
        rw [changes]
        exact ends
      · rcases Summary.mem_between_or e.snapshot.config ends with here | later
        · refine ⟨e, List.mem_cons_self, ?_⟩
          rw [changes]
          exact here
        · obtain ⟨e', member, found⟩ := ih behind last later
          exact ⟨e', List.mem_cons_of_mem e member, found⟩

namespace World

/-- Whatever differs between the ends of a sequence of configurations is reported in some step,
and so is the need of a restart.  In a run, a listener that got the event of every reload was
told of all that differs between the first snapshot and the last. -/
theorem changes_between_ends (r : Registry) :
    (∀ (config : Nat → Config) (n : Nat),
      let whole := Summary.between r (config 0) (config (n + 1))
      let part (k : Nat) := Summary.between r (config k) (config (k + 1))
      (∀ change ∈ whole.changes, ∃ k, k ≤ n ∧ change ∈ (part k).changes) ∧
        (whole.restartRequired = true → ∃ k, k ≤ n ∧ (part k).restartRequired = true)) ∧
    (∀ (w : World) (steps : List Step) (number : Nat), w.holder.loader.registry = r →
      w.reloads steps ≠ [] → (∀ e ∈ w.reloads steps, e ∈ w.received number steps) →
      let whole := Summary.between r w.holder.current.config (w.after steps).holder.current.config
      let got := w.received number steps
      (∀ change ∈ whole.changes, ∃ e, e ∈ got ∧ change ∈ e.changes.changes) ∧
        (whole.restartRequired = true → ∃ e, e ∈ got ∧ e.changes.restartRequired = true)) := by
  constructor
  · intro config n whole part
    have reported : ∀ change ∈ whole.changes, ∃ k, k ≤ n ∧ change ∈ (part k).changes :=
      fun _ ends => Summary.exists_step_of_mem_between config ends
    exact ⟨reported, Summary.exists_restartRequired reported⟩
  · intro w steps number same some complete whole got
    have linked : Linked r w.holder.current (w.reloads steps) := same ▸ linked_reloads w steps
    have reported : ∀ change ∈ whole.changes, ∃ e, e ∈ got ∧ change ∈ e.changes.changes := by
      intro change ends
      simp only [whole, after_current] at ends
      obtain ⟨e, member, found⟩ := linked.exists_event some ends
      exact ⟨e, complete e member, found⟩
    exact ⟨reported, Summary.exists_restartRequired reported⟩

/-- A reload behind a subscription: the listener gets its event. -/
theorem received_of_load {loader : Loader} (config : Config) {env : Environment} {d : Disk}
    {now : String} {loaded : Loaded} (success : (loader.load env now d).1.result = .ok loaded) :
    let w := (start loader config env d).next (.subscribe 1)
    let e := (ofConfig loader config).eventOf loaded.config
    w.reloads [.reload now, .receive 0] = [e] ∧ w.received 0 [.reload now, .receive 0] = [e] ∧
      (w.after [.reload now, .receive 0]).holder.current.config = loaded.config := by
  refine ⟨?_, ?_, ?_⟩ <;>
  simp [reloads, received, reloaded, handed, after, next, step, start, ofConfig, subscribe, reload,
    settle, success, eventOf, notify, receive, listener, Listener.offer, Listener.isFull, update]

theorem changes_between_ends_reordered :
    (let names (k : Nat) : String := if k = 0 then "a,b" else if k = 1 then "b, a" else "b"
     let config (k : Nat) : Config := Config.empty.set .bouquets (names k)
     let change : Change := { setting := .bouquets, path := "bouquets", live := true }
     ∃ k, k ≤ 1 ∧
      change ∈ (Summary.between .builtIn (config k) (config (k + 1))).changes) ∧
    (let loader : Loader := { version := "t" }
     let w := (start loader .empty ⟨[("XG2G_HLS_ROOT", "/hls")]⟩ {}).next (.subscribe 1)
     ∃ e, e ∈ w.received 0 [.reload "now", .receive 0] ∧ e.changes.restartRequired = true) := by
  constructor
  · intro names config change
    have first : Summary.normal .bouquets (.text "a,b") = .text "a,b" :=
      congrArg Value.text (Summary.sortedList_of_sorted (by decide))
    have last : Summary.normal .bouquets (.text "b") = .text "b" :=
      congrArg Value.text (Summary.sortedList_of_sorted (by decide))
    have differ : (!(Summary.normal .bouquets (.text "a,b")).equal
        (Summary.normal .bouquets (.text "b"))) = true := by
      rw [first, last]
      decide
    have ends : change ∈ (Summary.between .builtIn (config 0) (config 2)).changes :=
      Summary.mem_between.mpr ⟨differ, by decide +kernel, by decide +kernel⟩
    exact ((changes_between_ends .builtIn).1 config 1).1 change ends
  · intro loader w
    obtain ⟨loaded, success, version⟩ := Loader.exists_load_defaults _ rfl
    have differs : Summary.differs .empty loaded.config .version = true := by
      have normal : Summary.normal .version (loaded.config.leaf .version) = .text "t" :=
        congrArg Value.text version
      rw [Summary.differs, normal]
      decide
    obtain ⟨reloads, received, last⟩ := received_of_load .empty success
    refine ((changes_between_ends .builtIn).2 w [.reload "now", .receive 0] 0 rfl ?_ ?_).2 ?_
    · rw [reloads]
      exact List.cons_ne_nil _ _
    · rw [reloads, received]
      exact fun _ => id
    · let change : Change :=
        { setting := .version, path := Registry.builtIn.shownPath .version
          live := Registry.builtIn.isLive .version }
      have told : change ∈ (Summary.between .builtIn .empty loaded.config).changes :=
        Summary.mem_between.mpr ⟨differs, rfl, rfl⟩
      have cold : change.live = false := by decide +kernel
      rw [last]
      exact (Summary.restartRequired_iff _).mpr ⟨change, told, cold⟩

end World

end LayeredConfig.Holder
