import LayeredConfig.Proofs.Manifest.Enforcement
import LayeredConfig.Proofs.VariableUse

/-!
# Loads that name a manifest

The manifest of a load has a say in three things only: whether it can be read,
whether an entry of it stops the load, and which variables it looks up, which
are then not reported as unread.  So of two loads that differ in the manifest
they name, both give the same configuration if they succeed.

Main statement: `Loader.load_naming`.
-/

namespace LayeredConfig

open Reading Success
open VariableUse (Unaccounted Guards)

variable {values : String → Option String}

theorem Manifest.yields_check_iff {m : Manifest} {listing : List String}
    {presence : Option Presence} :
    Yields values (m.check listing presence) () ↔
      ∀ e ∈ m.deprecations, ¬Stops values listing presence e := by
  have enforces : Enforces values listing presence m.deprecations
    ((m.check listing presence).run values) := enforces_check m
  constructor
  · intro passed e member stops
    obtain ⟨f, failed⟩ := enforces.fails_iff.mpr ⟨e, member, stops⟩
    exact nomatch passed.symm.trans failed
  · intro pass
    unfold Yields
    cases result : ((m.check listing presence).run values).result with
    | ok => rfl
    | error f =>
        obtain ⟨e, member, stops⟩ := enforces.fails_iff.mp ⟨f, result⟩
        exact absurd stops (pass e member)

namespace Loader

variable {l : Loader} {env : Environment} {now : String} {d : Disk} {loaded : Loaded}

/-! ## The stages behind the search for the root -/

theorem yields_settle {listing : List String} {presence : Option Presence} {layered : Layered}
    {root : String} {c : Config} :
    Yields values (l.settle d listing presence layered root) c ↔
      ∃ mode config path m,
        Credentials.settle (layered.config.set .hlsRoot root) layered.older = .ok (mode, config) ∧
          Yields values l.manifestPath path ∧ Manifest.load d path = .ok m ∧
            Yields values (m.check listing presence) () ∧ config.set .version l.version = c := by
  unfold settle
  constructor
  · intro run
    obtain ⟨⟨mode, config⟩, credentials, run⟩ := yields_bind.mp run
    obtain ⟨path, named, run⟩ := yields_bind.mp run
    obtain ⟨_, enforced, done⟩ := yields_bind.mp run
    obtain ⟨m, read, checked⟩ := yields_bind.mp (yields_within.mp enforced)
    exact ⟨mode, config, path, m, yields_ofExcept.mp (yields_within.mp credentials), named,
      yields_ofExcept.mp read, checked, yields_pure.mp done⟩
  · rintro ⟨mode, config, path, m, credentials, named, read, checked, same⟩
    refine yields_bind.mpr ⟨(mode, config), yields_within.mpr (yields_ofExcept.mpr credentials), ?_⟩
    refine yields_bind.mpr ⟨path, named, yields_bind.mpr ⟨(), ?_, yields_pure.mpr same⟩⟩
    exact yields_within.mpr (yields_bind.mpr ⟨m, yields_ofExcept.mpr read, checked⟩)

/-! ## Naming a manifest -/

theorem Scans.unique {presence presence' : Option Presence} (first : l.Scans d presence)
    (second : l.Scans d presence') : presence' = presence := by
  unfold Scans at first second
  cases named : l.file with
  | none =>
      rw [named] at first second
      exact Eq.trans second first.symm
  | some path =>
      rw [named] at first second
      obtain ⟨text, p, read, scanned, rfl⟩ := first
      obtain ⟨text', p', read', scanned', rfl⟩ := second
      obtain rfl := Except.ok.inj (read.symm.trans read')
      rw [Except.ok.inj (scanned.symm.trans scanned')]

def naming (l : Loader) (path : String) : Loader := { l with manifest := some path }

/-- What a manifest must leave alone for a load to pass with it: it can be read on the disk that
the load leaves, none of its entries stops the load, and in strict mode no variable that looks as if
it guarded something is left that neither the load nor the manifest looks up. -/
def Admits (l : Loader) (env : Environment) (now : String) (d : Disk) (path : String)
    (c : Config) : Prop :=
  ∃ presence m, l.Scans d presence ∧ Manifest.load (l.load env now d).2 (some path) = .ok m ∧
    (∀ e ∈ m.deprecations, ¬Manifest.Stops env.get? env.listing presence e) ∧
      (c .configStrict = true → ∀ name ∈ env.listing.map Deprecation.nameOf,
        Unaccounted l.registry (((l.prepare d env.listing).run env.get?).asked ++
          m.deprecations.flatMap fun e => Deprecation.names e.key) name → ¬Guards name)

/-- Behind the search for the root the two loaders differ in the manifest that is read. -/
theorem yields_settle_naming {listing : List String} {presence : Option Presence}
    {layered : Layered} {root path : String} {c c' : Config}
    (settles : Yields values (l.settle d listing presence layered root) c) :
    Yields values ((l.naming path).settle d listing presence layered root) c' ↔
      c' = c ∧ ∃ m, Manifest.load d (some path) = .ok m ∧
        Yields values (m.check listing presence) () := by
  obtain ⟨mode, config, _, _, credentials, _, _, _, stamped⟩ := yields_settle.mp settles
  rw [yields_settle]
  constructor
  · rintro ⟨mode', config', path', m, credentials', named, read, checked, rfl⟩
    obtain rfl : some path = path' := yields_pure.mp named
    rw [credentials] at credentials'
    obtain ⟨_, rfl⟩ := Prod.mk.inj (Except.ok.inj credentials')
    exact ⟨stamped, m, read, checked⟩
  · rintro ⟨rfl, m, read, checked⟩
    exact ⟨mode, config, some path, m, credentials, yields_pure.mpr rfl, read, checked, stamped⟩

/-- A manifest that is named looks up the variables that it names, and its path in no variable. -/
theorem asked_settle_naming {listing : List String} {presence : Option Presence}
    {layered : Layered} {root path : String} {c : Config} {m : Manifest}
    (settles : Yields values ((l.naming path).settle d listing presence layered root) c)
    (read : Manifest.load d (some path) = .ok m) :
    (((l.naming path).settle d listing presence layered root).run values).asked =
      m.deprecations.flatMap fun e => Deprecation.names e.key := by
  obtain ⟨path', m', named, read', _, asked⟩ := exists_manifest_of_settle settles
  obtain rfl : some path = path' := yields_pure.mp named
  obtain rfl := Except.ok.inj (read.symm.trans read')
  exact asked

section Settled

variable {layered : Layered} {presence : Option Presence} {inputs : HlsRoot.Inputs}
  {root root' : HlsRoot.Resolution} {path : String} {c c' : Config} {m : Manifest}

variable (prepared : Yields env.get? (l.prepare d env.listing) (layered, presence, inputs))
  (resolved : (HlsRoot.resolve d now inputs).1.result = .ok root)
  (settles : Yields env.get? (l.settle (HlsRoot.resolve d now inputs).2 env.listing presence
    layered root.root) c)

include prepared resolved settles

/-- Where the load settles a configuration, the one with the other manifest settles the same one or
none. -/
theorem settled_naming : ((l.naming path).settled env now d).result = .ok (root', c') ↔
    root' = root ∧ c' = c ∧ ∃ m,
      Manifest.load (HlsRoot.resolve d now inputs).2 (some path) = .ok m ∧
        ∀ e ∈ m.deprecations, ¬Manifest.Stops env.get? env.listing presence e := by
  -- in front of the manifest the two loads are the same
  have front : Yields env.get? ((l.naming path).prepare d env.listing)
    (layered, presence, inputs) := prepared
  rw [result_settled]
  constructor
  · rintro ⟨layered', presence', inputs', prepared', resolved', settles'⟩
    obtain ⟨rfl, rfl, rfl⟩ : layered = layered' ∧ presence = presence' ∧ inputs = inputs' := by
      simpa using Yields.unique front prepared'
    obtain rfl := Except.ok.inj (resolved.symm.trans resolved')
    obtain ⟨rfl, m, read, checked⟩ := (yields_settle_naming settles).mp settles'
    exact ⟨rfl, rfl, m, read, Manifest.yields_check_iff.mp checked⟩
  · rintro ⟨rfl, rfl, m, read, pass⟩
    exact ⟨layered, presence, inputs, front, resolved,
      (yields_settle_naming settles).mpr ⟨rfl, m, read, Manifest.yields_check_iff.mpr pass⟩⟩

theorem asked_settled_naming
    (read : Manifest.load (HlsRoot.resolve d now inputs).2 (some path) = .ok m)
    (pass : ∀ e ∈ m.deprecations, ¬Manifest.Stops env.get? env.listing presence e) :
    ((l.naming path).settled env now d).asked =
      ((l.prepare d env.listing).run env.get?).asked ++
        m.deprecations.flatMap fun e => Deprecation.names e.key := by
  have front : Yields env.get? ((l.naming path).prepare d env.listing)
    (layered, presence, inputs) := prepared
  have settles' := (yields_settle_naming settles).mpr
    ⟨rfl, m, read, Manifest.yields_check_iff.mpr pass⟩
  rw [asked_settled front resolved settles', asked_settle_naming settles' read]
  rfl

end Settled

/-- A load with another manifest leaves the same disk, succeeds if the manifest lets it pass, and
gives the same configuration. -/
theorem load_naming (success : (l.load env now d).1.result = .ok loaded) (path : String) :
    ((l.naming path).load env now d).2 = (l.load env now d).2 ∧
      ((∃ loaded', ((l.naming path).load env now d).1.result = .ok loaded') ↔
        l.Admits env now d path loaded.config) ∧
      ∀ loaded', ((l.naming path).load env now d).1.result = .ok loaded' →
        loaded'.config = loaded.config := by
  obtain ⟨wasSettled, finished, _⟩ := result_load.mp success
  obtain ⟨layered, presence, inputs, prepared, resolved, settles⟩ := result_settled.mp wasSettled
  have disk : (l.load env now d).2 = (HlsRoot.resolve d now inputs).2 := disk_of_load prepared
  have sameDisk : ((l.naming path).load env now d).2 = (HlsRoot.resolve d now inputs).2 :=
    disk_of_load (l := l.naming path) prepared
  have valid := (exists_yields_finish_iff.mp ⟨_, finished⟩).2
  refine ⟨sameDisk.trans disk.symm, ?_, ?_⟩
  · rw [exists_load_iff, Admits, disk]
    constructor
    · rintro ⟨root, c, wasSettled', finished'⟩
      obtain ⟨rfl, rfl, m, read, pass⟩ := (settled_naming prepared resolved settles).mp wasSettled'
      rw [asked_settled_naming prepared resolved settles read pass] at finished'
      exact ⟨presence, m, scans_of_yields_prepare prepared, read, pass,
        (exists_yields_finish_iff.mp finished').1⟩
    · rintro ⟨presence', m, scans, read, pass, harmless⟩
      obtain rfl := Scans.unique (scans_of_yields_prepare prepared) scans
      refine ⟨loaded.root, loaded.config,
        (settled_naming prepared resolved settles).mpr ⟨rfl, rfl, m, read, pass⟩, ?_⟩
      rw [asked_settled_naming prepared resolved settles read pass]
      exact exists_yields_finish_iff.mpr ⟨harmless, valid⟩
  · intro loaded' success'
    exact ((settled_naming prepared resolved settles).mp (result_load.mp success').1).2.1

end Loader

end LayeredConfig
