import LayeredConfig.Alias
import LayeredConfig.Proofs.Duration
import LayeredConfig.Proofs.Source

/-!
# One source alone

What a source of a receiver setting supplies shows in a run of its layer that
finds nothing else: an environment with one variable, or a file with one value.
The run succeeds, and the place that the source reaches then holds just what the
source supplies.

Main statement: `Source.sets_iff`.
-/

namespace LayeredConfig

open Reading Alias

variable {values : String → Option String} {f : File} {s : Setting}

def Variable.only (values : String → Option String) (name : String) : String → Option String :=
  fun other => if other = name then values other else none

namespace File

open FileKey

/-! ## A file with one value -/

/-- A file with one value of another. -/
def only (f : File) (k : FileKey) : File := empty.put k (f.value k)

theorem WellFormed.only (formed : f.WellFormed) (k : FileKey) : (f.only k).WellFormed := by
  intro other v found
  by_cases same : other = k
  · subst same
    rw [File.only, put_same] at found
    exact formed other v found
  · rw [File.only, put_other _ _ same] at found
    contradiction

theorem fromKey_only_same (k : FileKey) :
    Value.fromKey values (f.only k) k = Value.fromKey values f k := by
  rw [Value.fromKey, only, put_same, Value.fromKey]

theorem fromKey_only_other {k other : FileKey} (differ : other ≠ k) :
    Value.fromKey values (f.only k) other = none := by
  rw [Value.fromKey, only, put_other _ _ differ]
  rfl

theorem foldl_lay_only (formed : f.WellFormed) {k : FileKey} (flat : k.setting.kind ≠ .table)
    (list : List FileKey) (below : Value) :
    list.foldl ((f.only k).lay values) below =
      if k ∈ list then (Value.fromKey values f k).getD below else below := by
  induction list generalizing below with
  | nil => rfl
  | cons first rest ih =>
      rw [List.foldl_cons, ih]
      by_cases same : first = k
      · subst same
        rw [if_pos List.mem_cons_self, lay, fromKey_only_same]
        cases found : Value.fromKey values f first with
        | none =>
            rw [Option.map_none, Option.getD_none, Option.getD_none]
            split <;> rfl
        | some v =>
            rw [Option.map_some, Option.getD_some, Option.getD_some,
              onto_of_fromKey formed found (Or.inl flat)]
            split <;> rfl
      · rw [lay, fromKey_only_other same, Option.map_none, Option.getD_none]
        simp only [List.mem_cons, Ne.symm same, false_or]

theorem at_of_yields_only (formed : f.WellFormed) {k : FileKey} (known : k ∈ keys)
    (counted : k ≠ .own .version) (flat : k.setting.kind ≠ .table) {l l' : Layered}
    (run : Yields values ((f.only k).merge l) l') :
    l'.at k = (Value.fromKey values f k).getD (l.at k) := by
  have reaches : k ∈ reaching k := by
    rw [reaching, List.mem_filter]
    exact ⟨mem_order_of_mem_keys known counted, decide_eq_true rfl⟩
  rw [at_of_yields_merge (formed.only k) run, foldl_lay_only formed flat, if_pos reaches]

theorem exists_of_only {k : FileKey} {v : Value} (found : Value.fromKey values f k = some v)
    (l : Layered) : ∃ l', Yields values ((f.only k).merge l) l' := by
  obtain ⟨given, present, held⟩ := Option.bind_eq_some_iff.mp found
  refine exists_of_foldlM (fun other _ t => ?_) l
  unfold applyKey
  by_cases same : other = k
  · subst same
    rw [only, put_same, present]
    have readable : other.setting.kind = .duration → ∀ raw, given = .text raw →
        ∃ d, Duration.read raw = .ok d := by
      rintro timed raw rfl
      rw [Value.ofFile_duration timed] at held
      obtain ⟨d, read, _⟩ := Option.map_eq_some_iff.mp held
      exact ⟨d, Duration.ok_of_toOption read⟩
    have run : Yields values (resolve other (t.config.leaf other.setting) given)
        ((Value.ofFile values other.setting given).map
          (Value.onto (t.config.leaf other.setting))) :=
      yields_resolve.mpr ⟨readable, rfl⟩
    rw [held] at run
    exact ⟨place t other _, yields_bind.mpr ⟨_, run, yields_pure.mpr rfl⟩⟩
  · rw [only, put_other _ _ same]
    exact ⟨t, yields_pure.mpr rfl⟩

end File

namespace VariableLayer

open FileKey

/-! ## An environment with one variable -/

theorem filled_only (name other : String) :
    Variable.filled (Variable.only values name) other =
      if other = name then Variable.filled values other else none := by
  unfold Variable.filled Variable.only
  split <;> rfl

theorem fromVariable_only {name other : String} (known : s.row.primary = some other) :
    Value.fromVariable (Variable.only values name) s =
      if other = name then Value.fromVariable values s else none := by
  unfold Value.fromVariable
  rw [known, Option.bind_some, Option.bind_some, filled_only]
  split <;> rfl

theorem fromOlderVariable_only {name other : String} (known : s.row.legacy = some other) :
    Value.fromOlderVariable (Variable.only values name) s =
      if other = name then Value.fromOlderVariable values s else none := by
  unfold Value.fromOlderVariable
  rw [known, Option.bind_some, Option.bind_some, filled_only]
  split <;> rfl

theorem exists_of_readPrimary (noTokens : Variable.filled values "XG2G_API_TOKENS" = none)
    (s : Setting) : ∃ v, Yields values (readPrimary s) v := by
  unfold readPrimary
  by_cases tokens : s.kind = .tokens
  · rw [eq_of_kind_tokens tokens]
    exact ⟨none, yields_bind.mpr ⟨none, Variable.yields_tokens.mpr (Or.inl ⟨noTokens, rfl⟩),
      yields_pure.mpr rfl⟩⟩
  · cases s.row.primary with
    | none => exact ⟨none, yields_pure.mpr rfl⟩
    | some name => exact ⟨_, (yields_read tokens).mpr rfl⟩

/-- Only a malformed list of tokens stops the reading of variables. -/
theorem exists_of_merge (noTokens : Variable.filled values "XG2G_API_TOKENS" = none) (l : Layered) :
    ∃ l', Yields values (merge l) l' := by
  have each : ∀ s ∈ Setting.all, ∀ t, ∃ t', Yields values (applySetting t s) t' := by
    intro s _ t
    rw [applySetting_eq]
    split
    · obtain ⟨older, fromOlder⟩ := exists_of_readLegacy s
      obtain ⟨newer, fromNewer⟩ := exists_of_readPrimary noTokens s
      exact ⟨_, yields_bind.mpr ⟨older, fromOlder, yields_bind.mpr
        ⟨newer, fromNewer, yields_pure.mpr rfl⟩⟩⟩
    · exact ⟨t, yields_pure.mpr rfl⟩
  obtain ⟨l', folded⟩ := exists_of_foldlM each l
  exact ⟨tidy l', yields_bind.mpr ⟨l', folded, yields_pure.mpr rfl⟩⟩

end VariableLayer

namespace Source

/-! ## The run of one source -/

/-- The key of the place that a source of a setting reaches. -/
def target (s : Setting) : Source → FileKey
  | .primary | .own => .own s
  | .legacy => VariableLayer.olderKey s
  | .older => .older s

/-- The run that merges nothing but one source of a setting. -/
def alone (values : String → Option String) (f : File) (s : Setting) (start : Layered) :
    Source → Run Layered
  | .primary => (VariableLayer.merge start).run (Variable.only values (newerVariable s))
  | .legacy => (VariableLayer.merge start).run (Variable.only values (olderVariable s))
  | .own => ((f.only (.own s)).merge start).run values
  | .older => ((f.only (.older s)).merge start).run values

/-- Merged alone, the source puts the value in its place, whatever was there. -/
def Sets (values : String → Option String) (f : File) (s : Setting) (source : Source)
    (v : Value) : Prop :=
  ∀ start, ∃ merged, (source.alone values f s start).result = .ok merged ∧
    merged.at (source.target s) = v

theorem facts_of_alias (double : s ∈ Setting.receiverAliases) :
    s.row.primary = some (newerVariable s) ∧ s.row.legacy = some (olderVariable s) ∧
      newerVariable s ≠ olderVariable s ∧ newerVariable s ≠ "XG2G_API_TOKENS" ∧
        olderVariable s ≠ "XG2G_API_TOKENS" ∧ s ≠ .version ∧ s ≠ .metricsEnabled ∧
          s ≠ .hlsRoot ∧ s ≠ .receiverAuthMode := by
  have each : ∀ s ∈ Setting.receiverAliases,
      s.row.primary = some (newerVariable s) ∧ s.row.legacy = some (olderVariable s) ∧
        newerVariable s ≠ olderVariable s ∧ newerVariable s ≠ "XG2G_API_TOKENS" ∧
          olderVariable s ≠ "XG2G_API_TOKENS" ∧ s ≠ .version ∧ s ≠ .metricsEnabled ∧
            s ≠ .hlsRoot ∧ s ≠ .receiverAuthMode := by
    decide
  exact each s double

theorem at_of_alone (formed : f.WellFormed) (double : s ∈ Setting.receiverAliases)
    {source : Source} {start merged : Layered}
    (run : (source.alone values f s start).result = .ok merged) :
    merged.at (source.target s) =
      (source.supply values f s).getD (start.at (source.target s)) := by
  obtain ⟨primary, legacy, differ, _, _, counted, noSwitch, noRoot, noMode⟩ :=
    facts_of_alias double
  have flat := File.no_table_of_alias double
  cases source with
  | primary =>
      have supplied : VariableLayer.supply (Variable.only values (newerVariable s)) s (.own s) =
          Value.fromVariable values s := by
        rw [VariableLayer.supply, if_pos rfl, VariableLayer.fromVariable_only primary, if_pos rfl,
          VariableLayer.fromOlderVariable_only legacy, if_neg (Ne.symm differ), ite_self,
          Option.or_none]
      have whole := VariableLayer.at_of_yields_merge (c := .own s) run noSwitch noRoot noMode
      exact whole.trans (congrArg (fun found => Option.getD found _) supplied)
  | legacy =>
      have supplied : VariableLayer.supply (Variable.only values (olderVariable s)) s
          (VariableLayer.olderKey s) = Value.fromOlderVariable values s := by
        rw [VariableLayer.supply, if_pos rfl, VariableLayer.fromOlderVariable_only legacy,
          if_pos rfl, VariableLayer.fromVariable_only primary, if_neg differ, ite_self,
          Option.none_or]
      have same := VariableLayer.setting_olderKey s
      have whole := VariableLayer.at_of_yields_merge (c := VariableLayer.olderKey s) run
        (by rwa [same]) (by rwa [same]) (by rwa [same])
      rw [same, supplied] at whole
      exact whole
  | own =>
      have known : FileKey.own s ∈ FileKey.keys :=
        List.mem_append_right _ (List.mem_map_of_mem s.mem_all)
      exact File.at_of_yields_only formed known (fun same => counted (FileKey.own.inj same)) flat
        run
  | older =>
      have known : FileKey.older s ∈ FileKey.keys :=
        List.mem_append_left _ (List.mem_map_of_mem double)
      exact File.at_of_yields_only formed known FileKey.noConfusion flat run

theorem exists_of_alone (double : s ∈ Setting.receiverAliases) {source : Source} {v : Value}
    (found : source.supply values f s = some v) (start : Layered) :
    ∃ merged, (source.alone values f s start).result = .ok merged := by
  obtain ⟨primary, legacy, _, newerNoTokens, olderNoTokens, _⟩ := facts_of_alias double
  cases source with
  | primary =>
      refine VariableLayer.exists_of_merge ?_ start
      rw [VariableLayer.filled_only, if_neg (Ne.symm newerNoTokens)]
  | legacy =>
      refine VariableLayer.exists_of_merge ?_ start
      rw [VariableLayer.filled_only, if_neg (Ne.symm olderNoTokens)]
  | own => exact File.exists_of_only found start
  | older => exact File.exists_of_only found start

theorem exists_two_of_alias (double : s ∈ Setting.receiverAliases) :
    ∃ x y : Value, x.IsOf s.kind ∧ y.IsOf s.kind ∧ x ≠ y := by
  rcases File.kind_of_alias double with kind | kind | kind | kind <;> rw [kind]
  · exact ⟨.text "", .text "a", rfl, rfl, by decide⟩
  · exact ⟨.duration ⟨0⟩, .duration ⟨1⟩, rfl, rfl, by decide⟩
  · exact ⟨.int 0, .int 1, rfl, rfl, by decide⟩
  · exact ⟨.bool false, .bool true, rfl, rfl, by decide⟩

theorem setting_target (source : Source) : (source.target s).setting = s := by
  cases source with
  | legacy => exact VariableLayer.setting_olderKey s
  | _ => rfl

/-- Every place of a receiver setting can hold another value. -/
theorem exists_other (double : s ∈ Setting.receiverAliases) (source : Source) (v : Value) :
    ∃ start : Layered, start.at (source.target s) ≠ v := by
  obtain ⟨x, y, fitsX, fitsY, differ⟩ := exists_two_of_alias double
  let holding (w : Value) : Layered := File.place { config := .empty } (source.target s) w
  have holds : ∀ w : Value, w.IsOf s.kind → (holding w).at (source.target s) = w := by
    intro w fits
    rw [File.at_place (by rwa [setting_target]), if_pos rfl]
  by_cases same : x = v
  · refine ⟨holding y, ?_⟩
    rw [holds y fitsY, ← same]
    exact Ne.symm differ
  · refine ⟨holding x, ?_⟩
    rw [holds x fitsX]
    exact same

/-- A source sets exactly what it supplies. -/
theorem sets_iff (formed : f.WellFormed) (double : s ∈ Setting.receiverAliases) {source : Source}
    {v : Value} : source.Sets values f s v ↔ source.supply values f s = some v := by
  constructor
  · intro sets
    obtain ⟨start, other⟩ := exists_other double source v
    obtain ⟨merged, run, same⟩ := sets start
    rw [at_of_alone formed double run] at same
    cases found : source.supply values f s with
    | none =>
        rw [found] at same
        exact absurd same other
    | some w =>
        rw [found] at same
        exact congrArg some same
  · intro found start
    obtain ⟨merged, run⟩ := exists_of_alone double found start
    refine ⟨merged, run, ?_⟩
    rw [at_of_alone formed double run, found]
    rfl

end Source

end LayeredConfig
