import LayeredConfig.Proofs.Alone
import LayeredConfig.Proofs.Registry.Lookup

/-!
# Variables that hold no value

The layer of the variables is run twice, once with a variable and once without
it.  A blank variable makes no difference, and neither does one whose text holds
no value of its setting's kind.  The exceptions are the two lists of numbers: a
text without a number in it is read as the empty list, and that takes the place
of the list below.

Main statements: `VariableLayer.result_merge_unset`, and the counterexample
`VariableLayer.ports_cleared`.
-/

namespace LayeredConfig

open Text Reading

/-- Without a variable the others keep their values. -/
theorem Environment.get?_unset (env : Environment) (name other : String) :
    (env.unset name).get? other = if other = name then none else env.get? other := by
  unfold unset get?
  rw [List.find?_filter]
  split
  next same =>
    subst same
    rw [Option.map_eq_none_iff, List.find?_eq_none]
    intro b _
    simp
  next differ =>
    congr 2
    funext b
    by_cases found : b.1 = other
    · simp [found, differ]
    · simp [found]

namespace VariableLayer

/-! ## Emptying a list -/

def emptied (s : Setting) (l : Layered) : Layered :=
  { l with config := l.config.put s (.ints []) }

variable {s : Setting} {left right : String → Option String}

theorem emptied_eq_self_iff (list : s.kind = .ints) {l : Layered} :
    emptied s l = l ↔ l.config.leaf s = .ints [] := by
  have fits : (Value.ints []).IsOf s.kind := by
    rw [list]
    rfl
  constructor
  · intro same
    rw [← same]
    exact Config.leaf_put_same _ fits
  · intro empty
    rw [emptied, ← empty, Config.put_leaf]

theorem place_emptied (l : Layered) {k : FileKey} (differ : s ≠ k.setting)
    (noSwitch : s ≠ .metricsEnabled) (v : Value) :
    place (emptied s l) k v = emptied s (place l k v) := by
  have placed : File.place (emptied s l) k v = emptied s (File.place l k v) := by
    unfold File.place
    split
    · rfl
    · rfl
    · exact congrArg (fun c => { l with config := c }) (Config.put_comm _ differ _ _)
  unfold place
  simp only [placed]
  split
  · exact congrArg (fun c => { File.place l k v with config := c })
      (Config.set_put_comm _ noSwitch _ _)
  · rfl

theorem placeIf_emptied (l : Layered) {k : FileKey} (differ : s ≠ k.setting)
    (noSwitch : s ≠ .metricsEnabled) (given : Option Value) :
    placeIf (emptied s l) k given = emptied s (placeIf l k given) := by
  cases given with
  | none => rfl
  | some v => exact place_emptied l differ noSwitch v

theorem tidy_emptied (l : Layered) (noMode : s ≠ .receiverAuthMode) :
    tidy (emptied s l) = emptied s (tidy l) := by
  have kept : (emptied s l).config .receiverAuthMode = l.config .receiverAuthMode :=
    Config.put_other _ _ (Ne.symm noMode)
  unfold tidy
  rw [kept]
  exact congrArg (fun c => { l with config := c }) (Config.set_put_comm _ noMode _ _)

/-! ## What two environments have in common -/

/-- Both variables of a setting read the same in two environments. -/
structure ReadAlike (left right : String → Option String) (s : Setting) : Prop where
  older : Value.fromOlderVariable left s = Value.fromOlderVariable right s
  newer : ((readPrimary s).run left).result = ((readPrimary s).run right).result

theorem yields_readLegacy (values : String → Option String) (s : Setting) :
    Yields values (readLegacy s) (Value.fromOlderVariable values s) := by
  obtain ⟨v, run⟩ : ∃ v, Yields values (readLegacy s) v := exists_of_readLegacy s
  rwa [eq_of_yields_readLegacy run]

theorem yields_readPrimary (values : String → Option String) (noTokens : s.kind ≠ .tokens) :
    Yields values (readPrimary s) (Value.fromVariable values s) := by
  unfold readPrimary Value.fromVariable
  cases s.row.primary with
  | none => exact yields_pure.mpr rfl
  | some name => exact (yields_read noTokens).mpr rfl

theorem readAlike_of_supplies (noTokens : s.kind ≠ .tokens)
    (older : Value.fromOlderVariable left s = Value.fromOlderVariable right s)
    (newer : Value.fromVariable left s = Value.fromVariable right s) : ReadAlike left right s := by
  refine ⟨older, ?_⟩
  have first := yields_readPrimary left noTokens
  rw [newer] at first
  exact first.trans (yields_readPrimary right noTokens).symm

/-- Tokens are read from the text of the variable alone. -/
theorem result_tokens {name : String}
    (alike : Variable.filled left name = Variable.filled right name) :
    ((Variable.tokens name).run left).result = ((Variable.tokens name).run right).result := by
  have first : Yields left (Variable.nonblank name) (Variable.filled right name) :=
    Variable.yields_nonblank.mpr alike
  have second : Yields right (Variable.nonblank name) (Variable.filled right name) :=
    Variable.yields_nonblank.mpr rfl
  unfold Variable.tokens
  rw [result_bind first, result_bind second]
  cases Variable.filled right name with
  | none => rfl
  | some raw =>
      cases known : ScopedToken.readAll raw <;> simp only [known] <;> rfl

/-- A reading sees no more of a variable than its text, if that is not blank. -/
theorem readAlike_of_filled (alike : ∀ name, (Entry.ofSetting s).Knows name →
    Variable.filled left name = Variable.filled right name) : ReadAlike left right s := by
  have older : Value.fromOlderVariable left s = Value.fromOlderVariable right s := by
    unfold Value.fromOlderVariable
    cases known : s.row.legacy with
    | none => rfl
    | some name => rw [Option.bind_some, Option.bind_some, alike name (Or.inr known)]
  by_cases tokens : s.kind = .tokens
  · refine ⟨older, ?_⟩
    obtain rfl := eq_of_kind_tokens tokens
    have same := result_tokens (alike "XG2G_API_TOKENS" (Or.inl rfl))
    refine (result_bind_map (f := id) (g := id) ?_ fun _ => rfl).trans (map_id_result _)
    rw [map_id_result]
    exact same
  · refine readAlike_of_supplies tokens older ?_
    unfold Value.fromVariable
    cases known : s.row.primary with
    | none => rfl
    | some name => rw [Option.bind_some, Option.bind_some, alike name (Or.inl known)]

/-- Where a setting reads the same, its step carries along what commutes with placing a value. -/
theorem result_applySetting_map {f : Layered → Layered} {u : Setting}
    (alike : ReadAlike left right u)
    (commutes : ∀ l older newer, placeIf (placeIf (f l) (olderKey u) older) (.own u) newer =
      f (placeIf (placeIf l (olderKey u) older) (.own u) newer)) (l : Layered) :
    ((applySetting (f l) u).run left).result = ((applySetting l u).run right).result.map f := by
  rw [applySetting_eq, applySetting_eq]
  split
  · have first := yields_readLegacy left u
    rw [alike.older] at first
    rw [result_bind first, result_bind (yields_readLegacy right u)]
    refine result_bind_map (f := id) ?_ fun newer => ?_
    · rw [map_id_result, alike.newer]
    · exact congrArg Except.ok (commutes l _ newer)
  · rfl

/-- If every setting reads the same, the variables make the same of what lies below. -/
theorem result_merge_alike (alike : ∀ s, ReadAlike left right s) (l : Layered) :
    ((merge l).run left).result = ((merge l).run right).result := by
  have folded : ((Setting.all.foldlM applySetting l).run left).result =
      ((Setting.all.foldlM applySetting l).run right).result.map id :=
    result_foldlM_map (f := id) (fun u _ t =>
      result_applySetting_map (alike u) (fun _ _ _ => rfl) t) l
  exact (result_bind_map (g := id) folded fun _ => rfl).trans (map_id_result _)

/-- The settings that are lists of numbers have one variable each. -/
theorem facts_of_ints (list : s.kind = .ints) :
    s.row.legacy = none ∧ s.isReadFromVariables = true ∧ s ≠ .metricsEnabled ∧
      s ≠ .receiverAuthMode ∧ s ≠ .hlsRoot ∧ s ≠ .receiverUsername ∧ s ≠ .receiverPassword := by
  have each : ∀ s ∈ Setting.all, s.kind = .ints → s.row.legacy = none ∧
      s.isReadFromVariables = true ∧ s ≠ .metricsEnabled ∧ s ≠ .receiverAuthMode ∧
        s ≠ .hlsRoot ∧ s ≠ .receiverUsername ∧ s ≠ .receiverPassword := by decide
  exact each s s.mem_all list

/-- The step of such a setting, with what its variable supplies. -/
theorem yields_applySetting_ints (values : String → Option String) (list : s.kind = .ints)
    (l : Layered) :
    Yields values (applySetting l s) (placeIf l (.own s) (Value.fromVariable values s)) := by
  obtain ⟨single, counted, _⟩ := facts_of_ints list
  have noOlder : Value.fromOlderVariable values s = none := by
    rw [Value.fromOlderVariable, single, Option.bind_none]
  have older := yields_readLegacy values s
  rw [noOlder] at older
  have noTokens : s.kind ≠ .tokens := by simp [list]
  rw [applySetting_eq, if_pos counted]
  exact yields_bind.mpr ⟨_, older, yields_bind.mpr
    ⟨_, yields_readPrimary values noTokens, yields_pure.mpr rfl⟩⟩

/-- A list of numbers is that of its variable, else the one below. -/
theorem leaf_of_yields_ints {values : String → Option String} (list : s.kind = .ints)
    {l merged : Layered} (run : Yields values (merge l) merged) :
    merged.config.leaf s = (Value.fromVariable values s).getD (l.config.leaf s) := by
  obtain ⟨single, _, noSwitch, noMode, noRoot, noUsername, noPassword⟩ := facts_of_ints list
  obtain ⟨folded, all, same⟩ := yields_bind.mp run
  have noOlder : Value.fromOlderVariable values s = none := by
    rw [Value.fromOlderVariable, single, Option.bind_none]
  have kept := leaf_of_yields_fold all noSwitch noRoot noUsername noPassword
  rw [noOlder, Option.or_none] at kept
  rw [← yields_pure.mp same]
  exact (at_tidy (c := .own s) noMode).trans kept

/-- If one environment gives a list of numbers no member and the other does not touch it, the
results are the same but for the list. -/
theorem result_merge_emptied (list : s.kind = .ints)
    (cleared : Value.fromVariable left s = some (.ints []))
    (missing : Value.fromVariable right s = none)
    (others : ∀ u, u ≠ s → ReadAlike left right u) (l : Layered) :
    ((merge l).run left).result = ((merge l).run right).result.map (emptied s) := by
  obtain ⟨_, _, noSwitch, noMode, _⟩ := facts_of_ints list
  -- The step of the setting comes once; in front of it the runs agree, behind it but for the list.
  obtain ⟨before, after, order⟩ := List.append_of_mem s.mem_all
  have once := Setting.nodup_all
  rw [order, List.nodup_middle, List.nodup_cons, List.mem_append, not_or] at once
  have inFront : ∀ t, ((before.foldlM applySetting t).run left).result =
      ((before.foldlM applySetting t).run right).result.map id :=
    result_foldlM_map (f := id) fun u member t => result_applySetting_map
      (others u fun same => once.1.1 (same ▸ member)) (fun _ _ _ => rfl) t
  have here : ∀ t, ((applySetting t s).run left).result =
      ((applySetting t s).run right).result.map (emptied s) := by
    intro t
    have first := yields_applySetting_ints left list t
    have second := yields_applySetting_ints right list t
    rw [cleared] at first
    rw [missing] at second
    have noAddress : s ≠ .metricsListenAddress := by
      rintro rfl
      contradiction
    rw [first, second]
    exact congrArg Except.ok (if_neg noAddress)
  have behind : ∀ t, ((after.foldlM applySetting (emptied s t)).run left).result =
      ((after.foldlM applySetting t).run right).result.map (emptied s) := by
    refine result_foldlM_map fun u member t => ?_
    have differ : s ≠ u := fun same => once.1.2 (same ▸ member)
    have apart : s ≠ (olderKey u).setting := by rwa [setting_olderKey]
    refine result_applySetting_map (others u (Ne.symm differ)) (fun l older newer => ?_) t
    rw [placeIf_emptied l apart noSwitch, placeIf_emptied _ differ noSwitch]
  have folded : ((Setting.all.foldlM applySetting l).run left).result =
      ((Setting.all.foldlM applySetting l).run right).result.map (emptied s) := by
    rw [order, List.foldlM_append]
    refine result_bind_map (f := id) (inFront l) fun t => ?_
    rw [List.foldlM_cons, List.foldlM_cons]
    exact result_bind_map (f := emptied s) (here t) behind
  exact result_bind_map folded fun t => congrArg Except.ok (tidy_emptied t noMode)

/-! ## One variable less -/

/-- What the text of a variable supplies to the setting that is read from it. -/
inductive Supplies (s : Setting) (name raw : String) : Option Value → Prop where
  | own (known : s.row.primary = some name) : Supplies s name raw (Value.ofVariable s raw)
  | older (known : s.row.legacy = some name) : Supplies s name raw (Value.ofOlderVariable s raw)

theorem Supplies.knows {name raw : String} {v : Option Value} (supplies : Supplies s name raw v) :
    (Entry.ofSetting s).Knows name := by
  cases supplies with
  | own known => exact Or.inl known
  | older known => exact Or.inr known

/-- A variable is read for one setting only. -/
theorem eq_of_knows {u : Setting} {name : String} (first : (Entry.ofSetting s).Knows name)
    (second : (Entry.ofSetting u).Knows name) : s = u := by
  have same := Registry.eq_of_common_key Registry.distinct_builtIn.names
    (List.mem_map_of_mem s.mem_all) (List.mem_map_of_mem u.mem_all)
    (Entry.mem_variableNames.mpr first) (Entry.mem_variableNames.mpr second)
  exact congrArg Entry.setting same

/-- No setting is read twice from one variable. -/
theorem primary_ne_legacy {name : String} (primary : s.row.primary = some name) :
    s.row.legacy ≠ some name := by
  intro legacy
  have apart := (List.nodup_flatMap.mp Registry.distinct_builtIn.names).1 (Entry.ofSetting s)
    (List.mem_map_of_mem s.mem_all)
  have names : (Entry.ofSetting s).variableNames = [name, name] := by
    rw [Entry.variableNames, show (Entry.ofSetting s).primary = some name from primary,
      show (Entry.ofSetting s).legacy = some name from legacy]
    rfl
  rw [names] at apart
  simp at apart

variable {env : Environment} {name raw : String}

theorem filled_unset_other {other : String} (differ : other ≠ name) :
    Variable.filled env.get? other = Variable.filled (env.unset name).get? other := by
  rw [Variable.filled, Variable.filled, Environment.get?_unset, if_neg differ]

theorem filled_unset_same : Variable.filled (env.unset name).get? name = none := by
  rw [Variable.filled, Environment.get?_unset, if_pos rfl]
  rfl

/-- Other settings do not miss the variable. -/
theorem readAlike_unset_other {u : Setting} (known : (Entry.ofSetting s).Knows name)
    (differ : u ≠ s) : ReadAlike env.get? (env.unset name).get? u := by
  refine readAlike_of_filled fun other knows => filled_unset_other ?_
  rintro rfl
  exact differ (eq_of_knows knows known)

theorem filled_of_given (given : env.get? name = some raw)
    (filled : isBlankText raw.toList = false) : Variable.filled env.get? name = some raw := by
  rw [Variable.filled, given, Option.filter_some, filled]
  rfl

section Supply

variable {slot : Option String}

/-- What is read from the variable, with it and without it. -/
theorem read_unset_same (read : String → Option Value) (given : env.get? name = some raw)
    (filled : isBlankText raw.toList = false) (known : slot = some name) :
    (slot.bind fun n => (Variable.filled env.get? n).bind read) = read raw ∧
      (slot.bind fun n => (Variable.filled (env.unset name).get? n).bind read) = none := by
  subst known
  rw [Option.bind_some, Option.bind_some, filled_of_given given filled, filled_unset_same]
  exact ⟨rfl, rfl⟩

theorem read_unset_other {read : String → Option Value} (other : slot ≠ some name) :
    (slot.bind fun n => (Variable.filled env.get? n).bind read) =
      slot.bind fun n => (Variable.filled (env.unset name).get? n).bind read := by
  cases slot with
  | none => rfl
  | some n =>
      have differ : n ≠ name := fun same => other (congrArg some same)
      rw [Option.bind_some, Option.bind_some, filled_unset_other differ]

end Supply

/-- A variable whose text supplies nothing is not missed. -/
theorem readAlike_unset (given : env.get? name = some raw) (filled : isBlankText raw.toList = false)
    (noTokens : s.kind ≠ .tokens) {v : Option Value} (supplies : Supplies s name raw v)
    (nothing : v = none) : ReadAlike env.get? (env.unset name).get? s := by
  cases supplies with
  | own known =>
      obtain ⟨set, missing⟩ := read_unset_same (Value.ofVariable s) given filled known
      exact readAlike_of_supplies noTokens (read_unset_other (primary_ne_legacy known))
        ((set.trans nothing).trans missing.symm)
  | older known =>
      obtain ⟨set, missing⟩ := read_unset_same (Value.ofOlderVariable s) given filled known
      exact readAlike_of_supplies noTokens ((set.trans nothing).trans missing.symm)
        (read_unset_other fun primary => primary_ne_legacy primary known)

/-- A blank variable is not missed by any setting. -/
theorem readAlike_unset_blank (given : env.get? name = some raw)
    (blank : isBlankText raw.toList = true) (u : Setting) :
    ReadAlike env.get? (env.unset name).get? u := by
  refine readAlike_of_filled fun other _ => ?_
  by_cases same : other = name
  · subst same
    rw [filled_unset_same, Variable.filled, given, Option.filter_some, blank]
    rfl
  · exact filled_unset_other same

/-- Only a list of numbers is given no member. -/
theorem Supplies.own_of_ints {name raw : String} {v : Option Value}
    (supplies : Supplies s name raw v) (empty : v = some (.ints [])) :
    s.kind = .ints ∧ s.row.primary = some name ∧ Value.ofVariable s raw = some (.ints []) := by
  have kind_of : ∀ {k : Kind}, (Value.ints []).IsOf k → k = .ints := by
    intro k fits
    cases k <;> first | rfl | contradiction
  cases supplies with
  | own known => exact ⟨kind_of (Value.isOf_of_ofVariable empty), known, empty⟩
  | older known =>
      have list := kind_of (Value.isOf_of_ofOlderVariable empty)
      cases known.symm.trans (facts_of_ints list).1

/-- A blank variable makes no difference, and neither does one whose text supplies nothing.  A text
without a number leaves a list of numbers empty, so it makes no difference exactly if the list below
is empty already or the variables are refused anyway. -/
theorem result_merge_unset (l : Layered) (env : Environment) {name raw : String}
    (given : env.get? name = some raw) :
    let set := ((merge l).run env.get?).result
    let unset := ((merge l).run (env.unset name).get?).result
    (isBlankText raw.toList = true → set = unset) ∧
      ∀ s v, Supplies s name raw v → isBlankText raw.toList = false → s.kind ≠ .tokens →
        (v = none → set = unset) ∧
        (v = some (.ints []) → set = unset.map (emptied s) ∧
          (set = unset ↔ (∃ f, unset = .error f) ∨ l.config.leaf s = .ints [])) := by
  intro set unset
  refine ⟨fun blank => result_merge_alike (readAlike_unset_blank given blank) l,
    fun s v supplies filled noTokens => ⟨fun nothing => ?_, fun empty => ?_⟩⟩
  · refine result_merge_alike (fun u => ?_) l
    by_cases same : u = s
    · subst same
      exact readAlike_unset given filled noTokens supplies nothing
    · exact readAlike_unset_other supplies.knows same
  · obtain ⟨list, known, holdsNone⟩ := supplies.own_of_ints empty
    obtain ⟨read, missing⟩ : Value.fromVariable env.get? s = Value.ofVariable s raw ∧
        Value.fromVariable (env.unset name).get? s = none := read_unset_same _ given filled known
    have emptied : set = unset.map (emptied s) :=
      result_merge_emptied list (read.trans holdsNone) missing
        (fun u differ => readAlike_unset_other (Or.inl known) differ) l
    refine ⟨emptied, ?_⟩
    rw [emptied]
    cases without : unset with
    | error f => exact iff_of_true rfl (Or.inl ⟨f, rfl⟩)
    | ok merged =>
        have kept := leaf_of_yields_ints list without
        rw [missing, Option.getD_none] at kept
        rw [← kept, ← emptied_eq_self_iff list]
        constructor
        · exact fun same => Or.inr (Except.ok.inj same)
        · rintro (⟨f, failed⟩ | same)
          · cases failed
          · exact congrArg Except.ok same

/-- A number of days that is none. -/
theorem result_merge_unset_days :
    let env : Environment := ⟨[("XG2G_EPG_DAYS", "soon")]⟩
    let l : Layered := { config := Config.empty }
    ((merge l).run env.get?).result = ((merge l).run (env.unset "XG2G_EPG_DAYS").get?).result := by
  intro env l
  have given : env.get? "XG2G_EPG_DAYS" = some "soon" := by decide
  have nothing : Value.ofVariable .epgDays "soon" = none := by decide +kernel
  exact ((result_merge_unset l env given).2 .epgDays _ (.own rfl) (by decide) (by decide)).1 nothing

/-- A port list without a port takes the place of the ports below. -/
theorem ports_cleared :
    let env : Environment := ⟨[("XG2G_OUTBOUND_ALLOW_PORTS", "http")]⟩
    let l : Layered := { config := Config.empty.put .outboundPorts (.ints [443]) }
    ∃ set unset, Yields env.get? (merge l) set ∧
      Yields (env.unset "XG2G_OUTBOUND_ALLOW_PORTS").get? (merge l) unset ∧
        set.config.leaf .outboundPorts = .ints [] ∧
          unset.config.leaf .outboundPorts = .ints [443] := by
  intro env l
  obtain ⟨set, withIt⟩ : ∃ set, Yields env.get? (merge l) set :=
    exists_of_merge (by decide +kernel) l
  obtain ⟨unset, withoutIt⟩ :
      ∃ unset, Yields (env.unset "XG2G_OUTBOUND_ALLOW_PORTS").get? (merge l) unset :=
    exists_of_merge (by decide +kernel) l
  refine ⟨set, unset, withIt, withoutIt, ?_, ?_⟩
  · rw [leaf_of_yields_ints rfl withIt]
    decide +kernel
  · rw [leaf_of_yields_ints rfl withoutIt]
    decide +kernel

end VariableLayer

end LayeredConfig
