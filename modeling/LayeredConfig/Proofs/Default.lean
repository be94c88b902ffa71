import LayeredConfig.Proofs.Config
import LayeredConfig.Proofs.Registry.Lookup

/-!
# Applying defaults

The entries of a registry give their defaults to a configuration one after the
other, up to the first default that is no value of its setting.  No two entries
are of one setting, so every leaf is reached once at most: what the entries in
front of the misfit make of their leaves stays, and all other leaves are left
alone.  A second run finds every leaf as it would leave it.

Main statement: `Registry.filled_of_ofEntries`.
-/

namespace LayeredConfig

open Success

namespace Entry

def Fits (e : Entry) : Prop :=
  ∀ v, e.default = some v → ∃ given : e.setting.Value, e.setting.kind.toValue given = v

/-- What an entry makes of the value of its leaf: the default takes its place, but an optional text
that is set stays. -/
def laid (e : Entry) (below : Value) : Value :=
  match e.default with
  | none => below
  | some v => if e.setting.kind = .optionalText ∧ below ≠ .unset then below else v

theorem laid_laid (e : Entry) (below : Value) : e.laid (e.laid below) = e.laid below := by
  unfold laid
  cases e.default with
  | none => rfl
  | some v =>
      by_cases kept : e.setting.kind = .optionalText ∧ below ≠ .unset
      · simp only [if_pos kept]
      · simp only [if_neg kept]
        exact ite_self v

end Entry

/-- The second configuration is the first with the defaults of some entries: the leaves of the
entries hold what these make of them, and the others are unchanged. -/
structure Config.Filled (entries : List Entry) (c c' : Config) : Prop where
  laid : ∀ e ∈ entries, c'.leaf e.setting = e.laid (c.leaf e.setting)
  others : ∀ s, s ∉ entries.map Entry.setting → c'.leaf s = c.leaf s

/-- A configuration with the defaults has them already. -/
theorem Config.Filled.again {entries : List Entry} {c c' c'' : Config}
    (first : Filled entries c c') (second : Filled entries c' c'') : c'' = c' := by
  refine eq_of_leaves fun s => ?_
  by_cases member : s ∈ entries.map Entry.setting
  · obtain ⟨e, found, rfl⟩ := List.mem_map.mp member
    rw [second.laid e found, first.laid e found, e.laid_laid]
  · exact second.others s member

namespace Registry

/-! ## One entry -/

/-- A value of the setting is applied. -/
theorem exists_of_applyDefault (c : Config) {s : Setting} (given : s.Value) :
    ∃ next, applyDefault c s (s.kind.toValue given) = .ok next ∧
      next.leaf s =
        (if s.kind = .optionalText ∧ c.leaf s ≠ .unset then c.leaf s else s.kind.toValue given) ∧
      ∀ t, t ≠ s → next.leaf t = c.leaf t := by
  unfold applyDefault
  rw [Kind.ofValue_toValue]
  simp only
  split
  next idle =>
    refine ⟨c, rfl, ?_, fun _ _ => rfl⟩
    split
    next => rfl
    next missing =>
      -- only an optional text that is missing gets here, and its default is to be missing too
      have unset : c.leaf s = .unset := Decidable.not_not.mp fun set => missing ⟨idle.1, set⟩
      rw [unset]
      exact (idle.2.resolve_left fun set => set unset).symm
  next fresh =>
    refine ⟨c.set s given, rfl, ?_, fun t differ => c.leaf_set_other given differ⟩
    rw [c.leaf_set_same, if_neg fun kept => fresh ⟨kept.1, Or.inl kept.2⟩]

/-- A value of another kind is refused. -/
theorem applyDefault_misfit (c : Config) {s : Setting} {v : Value}
    (misfit : ∀ given : s.Value, s.kind.toValue given ≠ v) :
    applyDefault c s v =
      .error ((Cause.registry (.wrongKind s v) : Failure).within (.defaultOf s)) := by
  unfold applyDefault
  cases found : s.kind.ofValue v with
  | none => rfl
  | some given => exact absurd (Kind.toValue_of_ofValue found) (misfit given)

theorem exists_of_applyEntries_cons (c : Config) {e : Entry} (fits : e.Fits) :
    ∃ next, (∀ rest, applyEntries c (e :: rest) = applyEntries next rest) ∧
      next.leaf e.setting = e.laid (c.leaf e.setting) ∧
        ∀ t, t ≠ e.setting → next.leaf t = c.leaf t := by
  unfold Entry.laid
  cases declared : e.default with
  | none =>
      refine ⟨c, fun rest => ?_, rfl, fun _ _ => rfl⟩
      rw [applyEntries, declared]
  | some v =>
      obtain ⟨given, rfl⟩ := fits v declared
      obtain ⟨next, applied, here, others⟩ := exists_of_applyDefault c given
      refine ⟨next, fun rest => ?_, here, others⟩
      simp only [applyEntries, declared, applied]

theorem exists_misfit_of_applyEntries_cons (c : Config) {e : Entry} (misfit : ¬e.Fits)
    (rest : List Entry) :
    ∃ v, e.default = some v ∧ applyEntries c (e :: rest) =
      (c, .error ((Cause.registry (.wrongKind e.setting v) : Failure).within
        (.defaultOf e.setting))) := by
  rw [Entry.Fits, Classical.not_forall] at misfit
  obtain ⟨v, misfit⟩ := misfit
  rw [Classical.not_imp, not_exists] at misfit
  obtain ⟨declared, misfit⟩ := misfit
  refine ⟨v, declared, ?_⟩
  simp only [applyEntries, declared, applyDefault_misfit c misfit]

/-! ## All entries -/

/-- A leaf that no entry declares a default for is left alone, even if another default does not
fit. -/
theorem leaf_applyEntries (c : Config) {entries : List Entry} {s : Setting}
    (bare : ∀ e ∈ entries, e.setting = s → e.default = none) :
    (applyEntries c entries).1.leaf s = c.leaf s := by
  induction entries generalizing c with
  | nil => rfl
  | cons e rest ih =>
      obtain ⟨bareHere, bareRest⟩ := List.forall_mem_cons.mp bare
      by_cases fits : e.Fits
      · obtain ⟨next, step, here, others⟩ := exists_of_applyEntries_cons c fits
        rw [step, ih next bareRest]
        by_cases same : e.setting = s
        · rw [← same, here, Entry.laid, bareHere same]
        · exact others s (Ne.symm same)
      · obtain ⟨_, _, stopped⟩ := exists_misfit_of_applyEntries_cons c fits rest
        rw [stopped]

/-- Entries that fit are applied, and what stands behind them is applied to the result. -/
theorem exists_filled {earlier : List Entry} (distinct : (earlier.map Entry.setting).Nodup)
    (fit : ∀ e ∈ earlier, e.Fits) (c : Config) :
    ∃ next, (∀ rest, applyEntries c (earlier ++ rest) = applyEntries next rest) ∧
      c.Filled earlier next := by
  induction earlier generalizing c with
  | nil => exact ⟨c, fun _ => rfl, fun _ member => absurd member List.not_mem_nil, fun _ _ => rfl⟩
  | cons e rest ih =>
      obtain ⟨absent, restDistinct⟩ := List.nodup_cons.mp distinct
      obtain ⟨fitsHere, fitRest⟩ := List.forall_mem_cons.mp fit
      obtain ⟨first, step, here, others⟩ := exists_of_applyEntries_cons c fitsHere
      obtain ⟨next, later, filled⟩ := ih restDistinct fitRest first
      refine ⟨next, fun behind => ?_, ?_, ?_⟩
      · rw [List.cons_append, step, later]
      · rw [List.forall_mem_cons]
        refine ⟨(filled.others _ absent).trans here, fun x member => ?_⟩
        have differ : x.setting ≠ e.setting := fun same =>
          absent (same ▸ List.mem_map_of_mem member)
        rw [filled.laid x member, others _ differ]
      · intro s outside
        rw [List.map_cons, List.mem_cons, not_or] at outside
        rw [filled.others s outside.2, others s outside.1]

/-- Either all entries fit, or there is a first one that does not. -/
theorem fit_or_exists_misfit (entries : List Entry) :
    (∀ e ∈ entries, e.Fits) ∨
      ∃ earlier e later, entries = earlier ++ e :: later ∧ (∀ x ∈ earlier, x.Fits) ∧ ¬e.Fits := by
  induction entries with
  | nil => exact Or.inl fun _ member => absurd member List.not_mem_nil
  | cons e rest ih =>
      by_cases fits : e.Fits
      · rcases ih with fit | ⟨earlier, x, later, rfl, fit, misfit⟩
        · exact Or.inl (List.forall_mem_cons.mpr ⟨fits, fit⟩)
        · exact Or.inr ⟨e :: earlier, x, later, rfl, List.forall_mem_cons.mpr ⟨fits, fit⟩, misfit⟩
      · exact Or.inr ⟨[], e, rest, rfl, fun _ member => absurd member List.not_mem_nil, fits⟩

theorem nodup_of_ofEntries {entries : List Entry} {r : Registry}
    (accepted : ofEntries entries = .ok r) : (r.entries.map Entry.setting).Nodup := by
  obtain ⟨distinct, rfl⟩ := ofEntries_eq_ok_iff.mp accepted
  exact distinct.settings

/-- The defaults of an accepted registry are applied up to the first that does not fit, and once is
enough. -/
theorem filled_of_ofEntries {entries : List Entry} {r : Registry}
    (accepted : ofEntries entries = .ok r) (c : Config) :
    ((r.applyDefaults c).2 = .ok () ↔ ∀ e ∈ r.entries, e.Fits) ∧
      ((r.applyDefaults c).2 = .ok () → c.Filled r.entries (r.applyDefaults c).1) ∧
      (∀ f, (r.applyDefaults c).2 = .error f →
        ∃ earlier e later v, r.entries = earlier ++ e :: later ∧ (∀ x ∈ earlier, x.Fits) ∧
          ¬e.Fits ∧ e.default = some v ∧
          f.message = "failed to set default for " ++ e.setting.name ++ ": " ++
            ("type mismatch for " ++ e.setting.name ++ ": expected " ++ e.setting.kind.word ++
              ", got " ++ v.word) ∧
          c.Filled earlier (r.applyDefaults c).1 ∧
          ∀ x ∈ e :: later, (r.applyDefaults c).1.leaf x.setting = c.leaf x.setting) ∧
      r.applyDefaults (r.applyDefaults c).1 = r.applyDefaults c := by
  have distinct := nodup_of_ofEntries accepted
  unfold applyDefaults
  rcases fit_or_exists_misfit r.entries with fit | ⟨earlier, e, later, split, fit, misfit⟩
  · obtain ⟨next, applied, filled⟩ := exists_filled distinct fit c
    obtain ⟨next', applied', filled'⟩ := exists_filled distinct fit next
    have once : applyEntries c r.entries = (next, .ok ()) := by
      rw [← List.append_nil r.entries, applied]
      rfl
    have twice : applyEntries next r.entries = (next, .ok ()) := by
      rw [← List.append_nil r.entries, applied', filled.again filled']
      rfl
    rw [once]
    exact ⟨⟨fun _ => fit, fun _ => rfl⟩, fun _ => filled, fun f failed => by contradiction, twice⟩
  · rw [split, List.map_append, List.nodup_append] at distinct
    obtain ⟨distinctEarlier, _, apart⟩ := distinct
    obtain ⟨next, applied, filled⟩ := exists_filled distinctEarlier fit c
    obtain ⟨next', applied', filled'⟩ := exists_filled distinctEarlier fit next
    obtain ⟨v, declared, stopped⟩ := exists_misfit_of_applyEntries_cons next misfit later
    have once := (applied (e :: later)).trans stopped
    have twice := applied' (e :: later)
    rw [filled.again filled', stopped] at twice
    rw [split, once]
    refine ⟨⟨fun done => by contradiction, fun all => ?_⟩, fun done => by contradiction, ?_, twice⟩
    · exact absurd (all e (List.mem_append_right _ List.mem_cons_self)) misfit
    · rintro f failed
      cases failed
      refine ⟨earlier, e, later, v, rfl, fit, misfit, declared, rfl, filled, fun x member => ?_⟩
      exact filled.others _ fun early => apart _ early _ (List.mem_map_of_mem member) rfl

/-- Three defaults of which the last is no number: the two in front of it are applied, a path that
is set is kept, and the second run stops at the same place. -/
theorem filled_of_ofEntries_misfit :
    let days : Entry := { setting := .epgDays, default := some (.int 7) }
    let path : Entry := { setting := .storePath, default := some (.text "/store") }
    let retries : Entry := { setting := .epgRetries, default := some (.text "two") }
    let c := Config.empty.put .storePath (.text "/own")
    (∃ r, ofEntries [days, path] = .ok r ∧ (r.applyDefaults c).2 = .ok () ∧
      (r.applyDefaults c).1.leaf .epgDays = .int 7 ∧
      (r.applyDefaults c).1.leaf .storePath = .text "/own" ∧
      (r.applyDefaults c).1.leaf .epgRetries = .int 0) ∧
    ∃ r f, ofEntries [days, path, retries] = .ok r ∧ (r.applyDefaults c).2 = .error f ∧
      f.message = "failed to set default for EPG.Retries: type mismatch for EPG.Retries: " ++
        "expected int, got string" ∧
      r.applyDefaults (r.applyDefaults c).1 = r.applyDefaults c := by
  intro days path retries c
  constructor
  · have accepted : ofEntries [days, path] = .ok ⟨[days, path]⟩ := rfl
    obtain ⟨_, filled, _, _⟩ := filled_of_ofEntries accepted c
    have done : (applyDefaults ⟨[days, path]⟩ c).2 = .ok () := rfl
    have result := filled done
    refine ⟨_, accepted, done, ?_, ?_, ?_⟩
    · exact result.laid days (by decide)
    · exact result.laid path (by decide)
    · exact result.others .epgRetries (by decide)
  · have accepted : ofEntries [days, path, retries] = .ok ⟨[days, path, retries]⟩ := rfl
    obtain ⟨_, _, _, twice⟩ := filled_of_ofEntries accepted c
    exact ⟨_, _, accepted, rfl, by decide +kernel, twice⟩

end Registry

end LayeredConfig
