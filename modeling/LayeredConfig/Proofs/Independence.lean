import LayeredConfig.Proofs.Load
import LayeredConfig.Proofs.Manifest

/-!
# What a load depends on

A load looks variables up one after the other, and what it looks up next depends
on what it found.  Two of its stages see the whole listing of the variables: the
removed ones are refused, and the entries of a manifest that end in a star search
for a name.  One stage sees the clock: it writes the time into a file.  None of
this has a say in the result of a load that succeeds, nor in what is looked up.
So the names that a load looked up are all that it depends on, and every variable
of the registry is among them.

Main statement: `Loader.asked_of_load`.
-/

namespace LayeredConfig

open Reading Success

variable {values : String → Option String}

/-! ## Every variable of a setting is looked up -/

namespace Variable

theorem mem_asked_nonblank (name : String) : name ∈ ((nonblank name).run values).asked :=
  mem_asked_bind (List.mem_singleton_self name) _

theorem mem_asked_parsed {α : Type} (name : String) (parse : String → Option α)
    (warning : String → Warning) : name ∈ ((parsed name parse warning).run values).asked :=
  mem_asked_bind (mem_asked_nonblank name) _

end Variable

/-- No variable holds a table, mappings or library roots. -/
theorem Setting.kind_of_variable {s : Setting} {name : String}
    (known : s.row.primary = some name ∨ s.row.legacy = some name) :
    s.kind ≠ .table ∧ s.kind ≠ .mappings ∧ s.kind ≠ .libraryRoots := by
  have each : (s.row.primary = none ∧ s.row.legacy = none) ∨
      (s.kind ≠ .table ∧ s.kind ≠ .mappings ∧ s.kind ≠ .libraryRoots) := by
    cases s <;> first | exact Or.inl ⟨rfl, rfl⟩ | exact Or.inr (by decide)
  rcases each with ⟨noPrimary, noLegacy⟩ | flat
  · rw [noPrimary, noLegacy] at known
    simp at known
  · exact flat

namespace VariableLayer

open Variable

theorem mem_asked_read {s : Setting}
    (flat : s.kind ≠ .table ∧ s.kind ≠ .mappings ∧ s.kind ≠ .libraryRoots) (name : String) :
    name ∈ ((read s name).run values).asked := by
  unfold read
  cases kind : s.kind with
  | text | optionalText => exact mem_asked_bind (mem_asked_nonblank name) _
  | int | bool | float | duration => exact mem_asked_bind (mem_asked_parsed name _ _) _
  | texts | tokens => exact mem_asked_bind (mem_asked_bind (mem_asked_nonblank name) _) _
  | ints =>
      simp only
      split
      · exact mem_asked_bind (mem_asked_parsed name _ _) _
      · exact mem_asked_bind (mem_asked_bind (mem_asked_nonblank name) _) _
  | table => exact absurd kind flat.1
  | mappings => exact absurd kind flat.2.1
  | libraryRoots => exact absurd kind flat.2.2

theorem mem_asked_readOlder {s : Setting}
    (flat : s.kind ≠ .table ∧ s.kind ≠ .mappings ∧ s.kind ≠ .libraryRoots) (name : String) :
    name ∈ ((readOlder s name).run values).asked := by
  unfold readOlder
  split
  · exact mem_asked_bind (mem_asked_bind (mem_asked_parsed name _ _) _) _
  · exact mem_asked_read flat name

theorem mem_asked_applySetting {s : Setting} (counted : s ≠ .hlsRoot) {name : String}
    (known : s.row.primary = some name ∨ s.row.legacy = some name) (l : Layered) :
    name ∈ ((applySetting l s).run values).asked := by
  have flat := Setting.kind_of_variable known
  have read : s.isReadFromVariables = true := decide_eq_true counted
  rw [applySetting_eq, if_pos read]
  rcases known with primary | legacy
  · obtain ⟨older, first⟩ : ∃ v, Yields values (readLegacy s) v := exists_of_readLegacy s
    refine mem_asked_next first (mem_asked_bind ?_ _)
    rw [readPrimary, primary]
    exact mem_asked_read flat name
  · refine mem_asked_bind ?_ _
    rw [readLegacy, legacy]
    exact mem_asked_readOlder flat name

theorem mem_asked_merge {l l' : Layered} (run : Yields values (merge l) l') {s : Setting}
    (counted : s ≠ .hlsRoot) {name : String}
    (known : s.row.primary = some name ∨ s.row.legacy = some name) :
    name ∈ ((merge l).run values).asked := by
  obtain ⟨folded, looped, _⟩ := yields_bind.mp run
  exact mem_asked_bind
    (mem_asked_foldlM looped s.mem_all fun t => mem_asked_applySetting counted known t) _

end VariableLayer

namespace Loader

variable {l : Loader} {d : Disk}

theorem mem_asked_rootInputs (c : Config) :
    HlsRoot.variableName ∈ ((rootInputs c).run values).asked ∧
      HlsRoot.olderVariableName ∈ ((rootInputs c).run values).asked := by
  have both : ((rootInputs c).run values).asked =
      [HlsRoot.variableName, HlsRoot.olderVariableName] := rfl
  rw [both]
  decide

theorem mem_asked_merge {listing : List String} {result : Layered × Option Presence}
    (run : Yields values (l.merge d listing) result) {s : Setting} (counted : s ≠ .hlsRoot)
    {name : String} (known : s.row.primary = some name ∨ s.row.legacy = some name) :
    name ∈ ((l.merge d listing).run values).asked := by
  -- the variables are read in the last of the five stages
  obtain ⟨_, removed, run⟩ := yields_bind.mp run
  obtain ⟨_, started, run⟩ := yields_bind.mp run
  obtain ⟨_, fromFile, run⟩ := yields_bind.mp run
  obtain ⟨_, checked, run⟩ := yields_bind.mp run
  obtain ⟨merged, fromVariables, _⟩ := yields_bind.mp run
  refine mem_asked_next removed (mem_asked_next started (mem_asked_next fromFile
    (mem_asked_next checked (mem_asked_bind ?_ _))))
  rw [asked_within]
  exact VariableLayer.mem_asked_merge (yields_within.mp fromVariables) counted known

theorem mem_asked_prepare {listing : List String}
    {result : Layered × Option Presence × HlsRoot.Inputs}
    (run : Yields values (l.prepare d listing) result) {s : Setting} {name : String}
    (known : s.row.primary = some name ∨ s.row.legacy = some name) :
    name ∈ ((l.prepare d listing).run values).asked := by
  unfold prepare at run ⊢
  obtain ⟨_, first, run⟩ := yields_bind.mp run
  by_cases counted : s = .hlsRoot
  · obtain ⟨config, second, _⟩ := yields_bind.mp run
    refine mem_asked_next first (mem_asked_next second (mem_asked_bind ?_ _))
    subst counted
    rcases known with primary | legacy
    · cases primary
      exact (mem_asked_rootInputs config).1
    · cases legacy
      exact (mem_asked_rootInputs config).2
  · exact mem_asked_bind (mem_asked_merge first counted known) _

theorem mem_variableNames {name : String} (member : name ∈ Registry.builtIn.variableNames) :
    ∃ s : Setting, s.row.primary = some name ∨ s.row.legacy = some name := by
  obtain ⟨e, entry, known⟩ := List.mem_flatMap.mp member
  obtain ⟨s, _, rfl⟩ := List.mem_map.mp entry
  refine ⟨s, ?_⟩
  rcases List.mem_append.mp known with primary | legacy
  · exact Or.inl (Option.mem_toList.mp primary)
  · exact Or.inr (Option.mem_toList.mp legacy)

end Loader

/-! ## The listing has no say -/

namespace Loader

variable {l : Loader} {d : Disk}

/-- A listing without removed variables might as well be empty. -/
theorem merge_eq_of_yields {listing : List String} {result : Layered × Option Presence}
    (run : Yields values (l.merge d listing) result) : l.merge d listing = l.merge d [] := by
  obtain ⟨_, first, _⟩ := yields_bind.mp run
  rw [yields_within, yields_ofExcept] at first
  unfold merge
  rw [first]
  rfl

theorem prepare_eq_of_yields {listing : List String}
    {result : Layered × Option Presence × HlsRoot.Inputs}
    (run : Yields values (l.prepare d listing) result) :
    l.prepare d listing = l.prepare d [] := by
  obtain ⟨_, first, _⟩ := yields_bind.mp run
  unfold prepare
  rw [merge_eq_of_yields first]

/-- Behind the search for the root a manifest is enforced.  What is looked up is its path, and the
variables that it names. -/
theorem exists_manifest_of_settle {after : Disk} {listing : List String}
    {presence : Option Presence} {layered : Layered} {root : String} {c : Config}
    (run : Yields values (l.settle after listing presence layered root) c) :
    ∃ path m, Yields values l.manifestPath path ∧ Manifest.load after path = .ok m ∧
      Yields values (m.check listing presence) () ∧
      ((l.settle after listing presence layered root).run values).asked =
        (l.manifestPath.run values).asked ++
          m.deprecations.flatMap fun e => Deprecation.names e.key := by
  unfold settle at run ⊢
  obtain ⟨_, credentials, run⟩ := yields_bind.mp run
  obtain ⟨path, named, run⟩ := yields_bind.mp run
  obtain ⟨_, enforced, done⟩ := yields_bind.mp run
  obtain ⟨m, loaded, checked⟩ := yields_bind.mp (yields_within.mp enforced)
  refine ⟨path, m, named, yields_ofExcept.mp loaded, checked, ?_⟩
  rw [asked_bind credentials, asked_within, asked_ofExcept, List.nil_append, asked_bind named,
    asked_bind enforced, asked_within, asked_bind loaded, asked_ofExcept, List.nil_append,
    Manifest.asked_check checked]
  exact congrArg _ (List.append_nil _)

/-- Behind the search for the root neither another listing nor another clock shows. -/
theorem settle_congr {others : String → Option String} {listing listing' : List String}
    {presence : Option Presence} {layered : Layered} {root : String} {c c' : Config}
    {now now' : String} {after after' : Disk} (sameDisk : HlsRoot.SameDisk now now' after after')
    (first : Yields values (l.settle after listing presence layered root) c)
    (second : Yields others (l.settle after' listing' presence layered root) c')
    (agree : ∀ name ∈ ((l.settle after listing presence layered root).run values).asked,
      values name = others name) :
    c' = c ∧ ((l.settle after' listing' presence layered root).run others).asked =
      ((l.settle after listing presence layered root).run values).asked := by
  obtain ⟨path, m, named, loaded, _, asked⟩ := exists_manifest_of_settle first
  obtain ⟨path', m', named', loaded', _, asked'⟩ := exists_manifest_of_settle second
  obtain ⟨mode, config, credentials, stamped⟩ := exists_of_yields_settle first
  obtain ⟨mode', config', credentials', stamped'⟩ := exists_of_yields_settle second
  rw [asked] at agree ⊢
  have sameRun : l.manifestPath.run others = l.manifestPath.run values :=
    run_congr _ fun name member => agree name (List.mem_append_left _ member)
  obtain rfl : path' = path := by
    rw [Yields, sameRun] at named'
    exact Yields.unique named' named
  obtain rfl : m' = m := Manifest.load_clock sameDisk loaded loaded'
  rw [credentials] at credentials'
  obtain ⟨_, sameConfig⟩ := Prod.mk.inj (Except.ok.inj credentials')
  constructor
  · rw [stamped', stamped, sameConfig]
  · rw [asked', sameRun]

/-- The names that a load looked up: every variable of the built-in registry is among them, and
the result depends on no other variable, nor on the clock. -/
theorem asked_of_load {env : Environment} {now : String} {loaded : Loaded}
    (success : (l.load env now d).1.result = .ok loaded) :
    (l.registry = .builtIn → ∀ name ∈ l.registry.variableNames, name ∈ loaded.asked) ∧
      ∀ (other : Environment) (later : String) (loaded' : Loaded),
        (l.load other later d).1.result = .ok loaded' →
          (∀ name ∈ loaded.asked, env.get? name = other.get? name) →
            loaded'.config = loaded.config ∧ loaded'.root = loaded.root ∧
              loaded'.asked = loaded.asked := by
  obtain ⟨layered, presence, inputs, prepared, resolved, settled, asked⟩ := exists_of_load success
  have mem_asked : ∀ name, name ∈ loaded.asked ↔
      name ∈ ((l.prepare d env.listing).run env.get?).asked ∨
        name ∈ ((l.settle (HlsRoot.resolve d now inputs).2 env.listing presence layered
          loaded.root.root).run env.get?).asked := by
    intro name
    rw [asked, List.mem_mergeSort, List.mem_eraseDups, List.mem_append]
  constructor
  · intro builtIn name member
    rw [builtIn] at member
    obtain ⟨s, known⟩ := mem_variableNames member
    exact (mem_asked name).mpr (Or.inl (mem_asked_prepare prepared known))
  · intro other later loaded' success' agree
    obtain ⟨layered', presence', inputs', prepared', resolved', settled', asked'⟩ :=
      exists_of_load success'
    -- Both loads do the same up to the search for the root, so the same stages follow.
    have front : (l.prepare d other.listing).run other.get? =
        (l.prepare d env.listing).run env.get? := by
      rw [prepare_eq_of_yields prepared] at mem_asked ⊢
      rw [prepare_eq_of_yields prepared']
      exact run_congr _ fun name member => agree name ((mem_asked name).mpr (Or.inl member))
    have given : Yields env.get? (l.prepare d env.listing) (layered', presence', inputs') := by
      rw [Yields, ← front]
      exact prepared'
    cases Yields.unique prepared given
    obtain ⟨sameSearch, sameDisk⟩ : HlsRoot.SameOutcome now later _ _ :=
      HlsRoot.resolve_clock d inputs
    have sameRoot : loaded'.root = loaded.root := by
      rw [sameSearch, resolved] at resolved'
      exact (Except.ok.inj resolved').symm
    rw [sameRoot] at settled' asked'
    obtain ⟨sameConfig, sameAsked⟩ := settle_congr sameDisk settled settled' fun name member =>
      agree name ((mem_asked name).mpr (Or.inr member))
    refine ⟨sameConfig, sameRoot, ?_⟩
    rw [asked', asked, sameAsked, front]

/-- A variable that nothing reads changes neither the configuration nor what is looked up. -/
theorem asked_of_load_unread :
    let env : Environment := ⟨[("XG2G_HLS_ROOT", "/hls")]⟩
    let other : Environment := ⟨[("XG2G_HLS_ROOT", "/hls"), ("XG2G_UNREAD", "1")]⟩
    ∃ loaded loaded',
      (load { version := "t" } env "now" {}).1.result = .ok loaded ∧
        (load { version := "t" } other "later" {}).1.result = .ok loaded' ∧
          "XG2G_E2_HOST" ∈ loaded.asked ∧ loaded'.config = loaded.config := by
  intro env other
  obtain ⟨loaded, success, _⟩ := exists_load_defaults env rfl
  obtain ⟨loaded', success'⟩ := exists_ok_of_toBool
    (load { version := "t" } other "later" {}).1.result (by decide +kernel)
  have agree : ∀ name ∈ loaded.asked, env.get? name = other.get? name := by
    have each : ((settled { version := "t" } env "now" {}).asked.all fun name =>
        env.get? name = other.get? name) = true := by decide +kernel
    intro name member
    rw [asked_eq_of_load success, List.mem_mergeSort, List.mem_eraseDups] at member
    exact of_decide_eq_true (List.all_eq_true.mp each name member)
  obtain ⟨registered, independent⟩ := asked_of_load success
  obtain ⟨sameConfig, _⟩ := independent other "later" loaded' success' agree
  exact ⟨loaded, loaded', success, success', registered rfl _ (by decide +kernel), sameConfig⟩

end Loader

end LayeredConfig
