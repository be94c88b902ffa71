import LayeredConfig.Proofs.Holder.Unchanged
import LayeredConfig.Proofs.Precedence
import LayeredConfig.Proofs.Text.Cut

/-!
# The joined lists of a loaded configuration

The bouquets and the trusted proxies are kept as one text each, the names of the
file joined by commas, and whoever needs the names cuts that text again.  A name
is joined as it stands, with no mark around it.  So one with a comma in it comes
back as several names, blanks around a name are lost, and every other name comes
back as it was written.

Main statements: `recovered_commaList`, `Loader.names_of_load`.
-/

namespace LayeredConfig

open Text Reading Success

variable {values : String → Option String} {f : File} {s : Setting}

/-! ## Joining and cutting -/

/-- What comes back of names that were joined by commas: the names that they hold, in order.  It is
the same list if and only if each name is trimmed, not empty and without a comma. -/
structure Recovered (names loaded : List String) : Prop where
  held : loaded = names.flatMap commaList
  same_iff : loaded = names ↔ ∀ name ∈ names, IsSegment ',' name.toList

theorem recovered_commaList (names : List String) :
    Recovered names (commaList (",".intercalate names)) :=
  ⟨commaList_intercalate_eq_flatMap names, commaList_intercalate_eq_iff⟩

/-! ## Where the names come from -/

def File.names (f : File) (s : Setting) : List String :=
  match f.value (.own s) with
  | some (.texts list) => list
  | _ => []

/-- The file supplies its names as one text, if there are any. -/
theorem File.fromKey_names (formed : f.WellFormed) (joined : s.isCommaList = true) :
    Value.fromKey values f (.own s) =
      if f.names s = [] then none else some (.text (",".intercalate (f.names s))) := by
  unfold Value.fromKey names
  cases given : f.value (.own s) with
  | none => rfl
  | some v =>
      have fits : s.Admits v := (formed _ _ given).2
      unfold Setting.Admits at fits
      rw [Setting.isCommaList_iff.mp joined] at fits
      obtain ⟨list, rfl⟩ := fits
      cases list with
      | nil => rfl
      | cons first others => exact if_pos joined

/-- The variable counts, else the file if it holds a name. -/
theorem Source.highest_names (formed : f.WellFormed) (joined : s.isCommaList = true) :
    Source.highest values f s = (Value.fromVariable values s).or
      (if f.names s = [] then none else some (.text (",".intercalate (f.names s)))) := by
  have single : s ∉ Setting.receiverAliases ∧ s.row.legacy = none := by
    cases s <;> first | exact ⟨by decide, rfl⟩ | exact absurd joined (by decide)
  rw [highest_of_single formed single.1 single.2, File.fromKey_names formed joined]

/-! ## Loaded names -/

namespace Loader

variable {l : Loader} {env : Environment} {now : String} {d : Disk} {loaded : Loaded}

/-- Without a variable the configuration holds the joined names of the file. -/
theorem leaf_of_joined (success : (l.load env now d).1.result = .ok loaded) (opened : l.Opens d f)
    (joined : s.isCommaList = true) (given : f.names s ≠ [])
    (unset : Value.fromVariable env.get? s = none) :
    loaded.config.leaf s = .text (",".intercalate (f.names s)) := by
  obtain ⟨defaults, g, _, opened', formed, leaves⟩ := exists_highest_of_load success
  obtain rfl := opened.unique opened'
  have layered : s.isLayered = true ∧ s ≠ .receiverAuthMode := by
    cases s <;> first | exact ⟨by decide, by decide⟩ | exact absurd joined (by decide)
  have flat : s.kind ≠ .table := by
    rw [Setting.kind_of_isCommaList joined]
    exact Kind.noConfusion
  rw [leaves s layered.1 layered.2 (Or.inl flat), Source.highest_names formed joined, unset,
    if_neg given]
  rfl

theorem bouquetNames_of_load (success : (l.load env now d).1.result = .ok loaded)
    (opened : l.Opens d f) (given : f.names .bouquets ≠ [])
    (blank : Variable.filled env.get? "XG2G_BOUQUET" = none) :
    loaded.config.bouquetNames = commaList (",".intercalate (f.names .bouquets)) := by
  have unset : Value.fromVariable env.get? .bouquets = none :=
    congrArg (Option.bind · (Value.ofVariable .bouquets)) blank
  rw [Config.bouquetNames, Config.eq_of_leaf (leaf_of_joined success opened rfl given unset)]

theorem proxies_of_load (success : (l.load env now d).1.result = .ok loaded)
    (opened : l.Opens d f) (given : f.names .trustedProxies ≠ [])
    (blank : Variable.filled env.get? "XG2G_TRUSTED_PROXIES" = none) :
    loaded.config.proxies = commaList (",".intercalate (f.names .trustedProxies)) := by
  have unset : Value.fromVariable env.get? .trustedProxies = none :=
    congrArg (Option.bind · (Value.ofVariable .trustedProxies)) blank
  rw [Config.proxies, Config.eq_of_leaf (leaf_of_joined success opened rfl given unset)]

/-- If the file gives names and the variable is missing or blank, these names are loaded as far as
they survive joining and cutting. -/
theorem names_of_load (success : (l.load env now d).1.result = .ok loaded)
    (opened : l.Opens d f) :
    (f.names .bouquets ≠ [] → Variable.filled env.get? "XG2G_BOUQUET" = none →
      Recovered (f.names .bouquets) loaded.config.bouquetNames) ∧
    (f.names .trustedProxies ≠ [] → Variable.filled env.get? "XG2G_TRUSTED_PROXIES" = none →
      Recovered (f.names .trustedProxies) loaded.config.proxies) := by
  constructor
  · intro given blank
    rw [bouquetNames_of_load success opened given blank]
    exact recovered_commaList _
  · intro given blank
    rw [proxies_of_load success opened given blank]
    exact recovered_commaList _

/-- A file that gives one bouquet with a comma in its name and one proxy, and no variable that
gives any. -/
theorem exists_load_names :
    let l : Loader := { version := "t", file := some "/c.yaml" }
    let env : Environment := ⟨[("XG2G_HLS_ROOT", "/hls")]⟩
    let text := "bouquets: ['A,B']\ntrustedProxies: [10.0.0.0/8]\n"
    let d : Disk := { nodes := [(["c.yaml"], .file (.text text))] }
    ∃ loaded f, (l.load env "now" d).1.result = .ok loaded ∧ l.Opens d f ∧
      f.names .bouquets = ["A,B"] ∧ f.names .trustedProxies = ["10.0.0.0/8"] := by
  intro l env text d
  obtain ⟨loaded, success⟩ := exists_ok_of_toBool (l.load env "now" d).1.result (by
    unfold load prepare merge mergeFile openFile readFile
    simp only [l, env, text, d, Holder.readText_only]
    decide +kernel)
  obtain ⟨⟨f, presence⟩, opened, facts⟩ := exists_ok_of_any (openFile d "/c.yaml")
    (fun opened => decide (opened.1.names .bouquets = ["A,B"]) &&
      decide (opened.1.names .trustedProxies = ["10.0.0.0/8"]))
    (by
      unfold openFile readFile
      simp only [text, d, Holder.readText_only]
      decide +kernel)
  rw [Bool.and_eq_true, decide_eq_true_eq, decide_eq_true_eq] at facts
  exact ⟨loaded, f, success, ⟨presence, opened⟩, facts⟩

/-- The bouquet is cut at its comma, the proxy comes back as it was written. -/
theorem names_of_load_written :
    let l : Loader := { version := "t", file := some "/c.yaml" }
    let env : Environment := ⟨[("XG2G_HLS_ROOT", "/hls")]⟩
    let text := "bouquets: ['A,B']\ntrustedProxies: [10.0.0.0/8]\n"
    let d : Disk := { nodes := [(["c.yaml"], .file (.text text))] }
    ∃ loaded, (l.load env "now" d).1.result = .ok loaded ∧
      loaded.config.bouquetNames = ["A", "B"] ∧ loaded.config.proxies = ["10.0.0.0/8"] := by
  obtain ⟨loaded, f, success, opened, bouquets, proxies⟩ := exists_load_names
  obtain ⟨loadedBouquets, loadedProxies⟩ := names_of_load success opened
  rw [bouquets] at loadedBouquets
  rw [proxies] at loadedProxies
  refine ⟨loaded, success, ?_, ?_⟩
  · exact (loadedBouquets (List.cons_ne_nil _ _) (by decide)).held.trans (by decide)
  · refine (loadedProxies (List.cons_ne_nil _ _) (by decide)).same_iff.mpr ?_
    exact List.forall_mem_singleton.mpr ⟨by decide, by decide, by decide⟩

/-- A comma cuts a name: the file gives one bouquet, trimmed and not empty, no variable gives any,
and two are loaded. -/
theorem names_cut_at_comma :
    let l : Loader := { version := "t", file := some "/c.yaml" }
    let env : Environment := ⟨[("XG2G_HLS_ROOT", "/hls")]⟩
    let text := "bouquets: ['A,B']\ntrustedProxies: [10.0.0.0/8]\n"
    let d : Disk := { nodes := [(["c.yaml"], .file (.text text))] }
    ∃ loaded f, (l.load env "now" d).1.result = .ok loaded ∧ l.Opens d f ∧
      f.names .bouquets = ["A,B"] ∧ trim "A,B".toList = "A,B".toList ∧
        env.get? "XG2G_BOUQUET" = none ∧ loaded.config.bouquetNames = ["A", "B"] := by
  obtain ⟨loaded, f, success, opened, bouquets, _⟩ := exists_load_names
  refine ⟨loaded, f, success, opened, bouquets, by decide, by decide, ?_⟩
  rw [bouquetNames_of_load success opened (bouquets ▸ List.cons_ne_nil _ _) (by decide), bouquets]
  decide

end Loader

end LayeredConfig
