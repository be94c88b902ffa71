import LayeredConfig.Proofs.Alias
import LayeredConfig.Proofs.Alone
import LayeredConfig.Proofs.Number

/-!
# Checked names of one setting agree

A receiver setting that is no text is read twice: by the checks of its two names
and by the layers.  The two readings differ in form.  A check compares trimmed
text with its references replaced and counts milliseconds without a sign, a layer
reads the text again.  Where a layer takes a value, though, the check saw the
same one.  So if the checks pass, sources under different names agree.

Main statement: `Source.agree_of_checks`.
-/

namespace LayeredConfig

open Text Number Reading Success Alias

variable {values : String → Option String} {f : File} {p : Presence} {s : Setting}

namespace Setting

/-- The receiver settings with two names that are no text. -/
def typedAliases : List Setting :=
  [.receiverTimeout, .receiverRetries, .receiverBackoff, .receiverMaxBackoff, .receiverStreamPort,
   .receiverUseWebIfStreams]

theorem kind_of_typed (typed : s ∈ typedAliases) :
    s.kind = .duration ∨ s.kind = .int ∨ s.kind = .bool := by
  have each : ∀ s ∈ typedAliases, s.kind = .duration ∨ s.kind = .int ∨ s.kind = .bool := by decide
  exact each s typed

end Setting

/-! ## What the checks see of a source -/

/-- The form in which the value of a variable is compared: a text without the blanks around it. -/
def Value.trimmed : Value → Value
  | .text t => .text (String.ofList (trim t.toList))
  | v => v

theorem Value.trimmed_eq {v : Value}
    (typed : s.kind = .duration ∨ s.kind = .int ∨ s.kind = .bool) (fits : v.IsOf s.kind) :
    v.trimmed = v := by
  rcases typed with kind | kind | kind
  all_goals
    rw [kind] at fits
    cases v <;> first | rfl | contradiction

theorem compared_of_ofVariable
    (comparable : s.kind = .text ∨ s.kind = .duration ∨ s.kind = .int ∨ s.kind = .bool)
    {name raw : String} (filled : Variable.filled values name = some raw) {v : Value}
    (read : Value.ofVariable s raw = some v) : compared values s name false = some v.trimmed := by
  rw [compared, filled, Option.bind_some]
  rcases comparable with kind | kind | kind | kind
  all_goals simp only [Value.ofVariable, kind] at read ⊢
  · cases read
    rfl
  all_goals
    obtain ⟨_, parsed, rfl⟩ := Option.map_eq_some_iff.mp read
    exact read

theorem compared_of_fromVariable (double : s ∈ Setting.receiverAliases) {v : Value}
    (found : Value.fromVariable values s = some v) :
    compared values s (newerVariable s) false = some v.trimmed := by
  rw [Value.fromVariable, (Source.facts_of_alias double).1, Option.bind_some] at found
  obtain ⟨raw, filled, read⟩ := Option.bind_eq_some_iff.mp found
  exact compared_of_ofVariable (File.kind_of_alias double) filled read

theorem compared_of_fromOlderVariable (double : s ∈ Setting.receiverAliases) {v : Value}
    (found : Value.fromOlderVariable values s = some v) :
    compared values s (olderVariable s) s.olderCountsMillis = some v.trimmed := by
  rw [Value.fromOlderVariable, (Source.facts_of_alias double).2.1, Option.bind_some] at found
  obtain ⟨raw, filled, read⟩ := Option.bind_eq_some_iff.mp found
  unfold Value.ofOlderVariable at read
  by_cases millis : s.olderCountsMillis = true
  · have kind := Setting.kind_of_olderCountsMillis millis
    rw [if_pos millis] at read
    -- the check reads the milliseconds without a sign; a positive number is the same either way
    obtain ⟨n, counted, rfl⟩ := Option.map_eq_some_iff.mp read
    obtain ⟨parsed, positive⟩ := Option.filter_eq_some_iff.mp counted
    have bits := readBits_of_readInt64 parsed (of_decide_eq_true positive)
    rw [compared, filled, Option.bind_some]
    simp only [kind, millis, bits]
    rfl
  · rw [if_neg millis] at read
    rw [Bool.not_eq_true] at millis
    rw [millis]
    exact compared_of_ofVariable (File.kind_of_alias double) filled read

/-- Under a key that supplies a duration stands its text. -/
theorem text_of_fromKey (formed : f.WellFormed) {k : FileKey} {v : Value}
    (found : Value.fromKey values f k = some v) (timed : k.setting.kind = .duration) :
    ∃ raw d, f.value k = some (.text raw) ∧ Duration.read raw = .ok d ∧ v = .duration d := by
  obtain ⟨given, present, held⟩ := Option.bind_eq_some_iff.mp found
  rcases (formed k given present).2.cases with ⟨_, raw, rfl⟩ | ⟨joined, _⟩ | ⟨notTimed, _⟩
  · rw [Value.ofFile_duration timed] at held
    obtain ⟨d, read, rfl⟩ := Option.map_eq_some_iff.mp held
    exact ⟨raw, d, present, Duration.ok_of_toOption read, rfl⟩
  · rw [Setting.kind_of_isCommaList joined] at timed
    contradiction
  · exact absurd timed notTimed

/-- Under a key that supplies a number or a switch stands the value itself. -/
theorem value_of_fromKey (formed : f.WellFormed) {k : FileKey} {v : Value}
    (found : Value.fromKey values f k = some v)
    (plain : k.setting.kind = .int ∨ k.setting.kind = .bool) : f.value k = some v := by
  obtain ⟨given, present, held⟩ := Option.bind_eq_some_iff.mp found
  rcases (formed k given present).2.cases with ⟨timed, _⟩ | ⟨joined, _⟩ | ⟨_, _, fits⟩
  · rw [timed] at plain
    simp at plain
  · rw [Setting.kind_of_isCommaList joined] at plain
    simp at plain
  · rcases plain with kind | kind
    all_goals
      rw [kind] at fits
      cases given <;> first | contradiction | (cases held; exact present)

/-- Under a key that supplies a text stands a text, and its references are replaced or not as the
setting has it. -/
theorem raw_of_fromKey (formed : f.WellFormed) {k : FileKey} {v : Value}
    (found : Value.fromKey values f k = some v) (kind : k.setting.kind = .text)
    (apart : k.setting.isCommaList = false) (noMode : k.setting ≠ .receiverAuthMode) :
    ∃ raw, f.value k = some (.text raw) ∧
      v = .text (if k.setting.isExpanded then expanded values raw else raw) := by
  obtain ⟨given, present, held⟩ := Option.bind_eq_some_iff.mp found
  have notTimed : k.setting.kind ≠ .duration := by simp [kind]
  rcases (formed k given present).2.cases with ⟨timed, _⟩ | ⟨joined, _⟩ | ⟨_, _, fits⟩
  · exact absurd timed notTimed
  · rw [apart] at joined
    contradiction
  · rw [kind] at fits
    obtain ⟨raw, rfl⟩ := fits.exists_text
    rw [Value.ofFile_text notTimed, if_neg noMode] at held
    refine ⟨raw, present, ?_⟩
    split at held
    next replaced => rw [if_pos replaced, Option.some.inj held]
    next verbatim => rw [if_neg verbatim, Option.some.inj held]

/-! ## Durations -/

/-- A text that is a duration is compared as the same duration. -/
theorem read_normalText (values : String → Option String) {raw : String} {d : Duration}
    (read : Duration.read raw = .ok d) : Duration.read (normalText values raw) = .ok d := by
  rw [normalText, expanded_eq_self (Duration.dollar_not_mem_of_read read),
    Duration.read_trim_eq_ok_iff]
  exact read

theorem not_isEmpty_of_read {text : String} {d : Duration} (read : Duration.read text = .ok d) :
    text.isEmpty = false := by
  cases empty : text.isEmpty with
  | false => rfl
  | true =>
      rw [String.isEmpty_iff.mp empty] at read
      contradiction

theorem eq_of_sameDurationText {a b : String} {x y : Duration} (first : Duration.read a = .ok x)
    (second : Duration.read b = .ok y) (same : Yields values (sameDurationText a b) true) :
    x = y := by
  have readFirst := read_normalText values first
  have readSecond := read_normalText values second
  obtain ⟨_, normalFirst, same⟩ := yields_bind.mp same
  obtain ⟨_, normalSecond, same⟩ := yields_bind.mp same
  rw [← yields_normal.mp normalFirst, ← yields_normal.mp normalSecond,
    not_isEmpty_of_read readFirst, Bool.false_and, readFirst, readSecond] at same
  exact eq_of_beq (yields_pure.mp same)

theorem eq_of_sameDuration {text : String} {x d : Duration} (read : Duration.read text = .ok x)
    (same : Yields values (sameDuration text d) true) : x = d := by
  have readText := read_normalText values read
  obtain ⟨_, normalText, same⟩ := yields_bind.mp same
  rw [← yields_normal.mp normalText, not_isEmpty_of_read readText, readText] at same
  exact eq_of_beq (yields_pure.mp same)

/-! ## Agreement -/

theorem eq_of_sameInFile (formed : f.WellFormed) (typed : s ∈ Setting.typedAliases) {v w : Value}
    (older : Value.fromKey values f (.older s) = some v)
    (own : Value.fromKey values f (.own s) = some w)
    (same : Yields values (sameInFile s (f.value (.older s)) (f.value (.own s))) true) : v = w := by
  unfold sameInFile at same
  rcases Setting.kind_of_typed typed with timed | plain
  · obtain ⟨a, x, givenOlder, readOlder, rfl⟩ := text_of_fromKey formed older timed
    obtain ⟨b, y, givenOwn, readOwn, rfl⟩ := text_of_fromKey formed own timed
    simp only [timed, givenOlder, givenOwn] at same
    exact congrArg Value.duration (eq_of_sameDurationText readOlder readOwn same)
  · rw [value_of_fromKey formed older plain, value_of_fromKey formed own plain] at same
    rcases plain with kind | kind
    all_goals
      simp only [kind, yields_pure] at same
      exact Option.some.inj (eq_of_beq same)

theorem eq_of_sameAsVariable (formed : f.WellFormed) {k : FileKey} {v given : Value}
    (found : Value.fromKey values f k = some v)
    (typed : k.setting.kind = .duration ∨ k.setting.kind = .int ∨ k.setting.kind = .bool)
    (fits : given.IsOf k.setting.kind)
    (same : Yields values (sameAsVariable (f.value k) given) true) : v = given := by
  unfold sameAsVariable at same
  rcases typed with timed | plain
  · obtain ⟨raw, x, present, read, rfl⟩ := text_of_fromKey formed found timed
    rw [timed] at fits
    cases given <;> first | contradiction | skip
    simp only [present] at same
    exact congrArg Value.duration (eq_of_sameDuration read same)
  · rw [value_of_fromKey formed found plain] at same
    rcases plain with kind | kind
    all_goals
      rw [kind] at fits
      cases given <;> first | contradiction | skip
      exact Option.some.inj (eq_of_beq (yields_pure.mp same))

theorem eq_of_sameVariables (typed : s ∈ Setting.typedAliases) {v w : Value}
    (fits : v.IsOf s.kind) (same : Yields values (sameVariables v w) true) : v = w := by
  unfold sameVariables at same
  rcases Setting.kind_of_typed typed with kind | kind | kind
  all_goals
    rw [kind] at fits
    cases v <;> first | contradiction | skip
    exact eq_of_beq (yields_pure.mp same)

/-- The keys of receiver settings that have a value in the file are on record. -/
def Presence.Records (p : Presence) (f : File) : Prop :=
  ∀ s ∈ Setting.receiverAliases,
    ((f.value (.older s)).isSome = true → p.hasLegacy s.lastStep = true) ∧
      ((f.value (.own s)).isSome = true → p.hasCanonical s.lastStep = true)

/-- The three checks of receiver settings pass. -/
structure Alias.Passes (values : String → Option String) (f : File) (p : Presence) : Prop where
  keys : Yields values (checkKeys f p) ()
  keysAndVariables : Yields values (checkKeysAndVariables f p) ()
  ofVariables : Yields values checkVariables ()

/-- The checks of one setting found that its sources agree. -/
structure Alias.Agrees (values : String → Option String) (f : File) (s : Setting) : Prop where
  keys : (f.value (.older s)).isSome = true → (f.value (.own s)).isSome = true →
    Yields values (sameInFile s (f.value (.older s)) (f.value (.own s))) true
  olderKey : (f.value (.older s)).isSome = true →
    ∀ given, compared values s (newerVariable s) false = some given →
      Yields values (sameAsVariable (f.value (.older s)) given) true
  ownKey : (f.value (.own s)).isSome = true →
    ∀ given, compared values s (olderVariable s) s.olderCountsMillis = some given →
      Yields values (sameAsVariable (f.value (.own s)) given) true
  ofVariables : ∀ older newer,
    compared values s (olderVariable s) s.olderCountsMillis = some older →
    compared values s (newerVariable s) false = some newer →
      Yields values (sameVariables older newer) true

theorem Alias.Passes.agrees (passes : Passes values f p) (enclosed : f.Encloses)
    (recorded : p.Records f) (double : s ∈ Setting.receiverAliases) : Agrees values f s := by
  have keys := yields_checkKeys.mp passes.keys
  obtain ⟨olderKey, ownKey⟩ :=
    yields_checkKeysAndVariablesOf.mp (yields_forM.mp passes.keysAndVariables s double)
  have ofVariables := yields_checkVariablesOf.mp (yields_forM.mp passes.ofVariables s double)
  obtain ⟨olderRecorded, ownRecorded⟩ := recorded s double
  obtain ⟨olderStands, ownStands⟩ := enclosed.hasBlock_receiver double
  exact ⟨fun older own => yields_checkKeysOf.mp (keys (olderStands older) (ownStands own) s double)
      (olderRecorded older) (ownRecorded own),
    fun older => olderKey (olderStands older) (olderRecorded older),
    fun own => ownKey (ownStands own) (ownRecorded own), ofVariables⟩

instance (p : Presence) (f : File) : Decidable (p.Records f) :=
  inferInstanceAs (Decidable (∀ s ∈ Setting.receiverAliases,
    ((f.value (.older s)).isSome = true → p.hasLegacy s.lastStep = true) ∧
      ((f.value (.own s)).isSome = true → p.hasCanonical s.lastStep = true)))

instance (values : String → Option String) (f : File) (p : Presence) :
    Decidable (Passes values f p) :=
  decidable_of_iff (Yields values (checkKeys f p) () ∧
      Yields values (checkKeysAndVariables f p) () ∧ Yields values checkVariables ())
    ⟨fun ⟨keys, keysAndVariables, ofVariables⟩ => ⟨keys, keysAndVariables, ofVariables⟩,
      fun passes => ⟨passes.keys, passes.keysAndVariables, passes.ofVariables⟩⟩

namespace Source

def isOlder : Source → Bool
  | .legacy | .older => true
  | .primary | .own => false

theorem isOlder_cases {a b : Source} (differ : a.isOlder ≠ b.isOlder) :
    (a.isOlder = true ∧ b.isOlder = false) ∨ (b.isOlder = true ∧ a.isOlder = false) := by
  cases underOlder : a.isOlder <;> cases otherOlder : b.isOlder <;> simp_all

theorem mem_aliases_of_typed (typed : s ∈ Setting.typedAliases) : s ∈ Setting.receiverAliases := by
  have each : ∀ s ∈ Setting.typedAliases, s ∈ Setting.receiverAliases := by decide
  exact each s typed

theorem isSome_of_fromKey {k : FileKey} {v : Value} (found : Value.fromKey values f k = some v) :
    (f.value k).isSome = true := by
  obtain ⟨given, present, _⟩ := Option.bind_eq_some_iff.mp found
  rw [present]
  rfl

theorem eq_of_supply (formed : f.WellFormed) (agrees : Agrees values f s)
    (typed : s ∈ Setting.typedAliases) {a b : Source} (underOlder : a.isOlder = true)
    (underNewer : b.isOlder = false) {v w : Value} (first : a.supply values f s = some v)
    (second : b.supply values f s = some w) : v = w := by
  have double := mem_aliases_of_typed typed
  -- two of the sources are under the older name and two under the newer one
  cases a with
  | primary => contradiction
  | own => contradiction
  | legacy =>
      have fits := Value.isOf_of_fromOlderVariable first
      have seen := compared_of_fromOlderVariable double first
      rw [Value.trimmed_eq (Setting.kind_of_typed typed) fits] at seen
      cases b with
      | legacy => contradiction
      | older => contradiction
      | primary =>
          have seenNewer := compared_of_fromVariable double second
          rw [Value.trimmed_eq (Setting.kind_of_typed typed) (Value.isOf_of_fromVariable second)]
            at seenNewer
          exact eq_of_sameVariables typed fits (agrees.ofVariables v w seen seenNewer)
      | own =>
          have same := agrees.ownKey (isSome_of_fromKey second) v seen
          exact (eq_of_sameAsVariable formed second (Setting.kind_of_typed typed) fits same).symm
  | older =>
      cases b with
      | legacy => contradiction
      | older => contradiction
      | primary =>
          have fits := Value.isOf_of_fromVariable second
          have seen := compared_of_fromVariable double second
          rw [Value.trimmed_eq (Setting.kind_of_typed typed) fits] at seen
          have same := agrees.olderKey (isSome_of_fromKey first) w seen
          exact eq_of_sameAsVariable formed first (Setting.kind_of_typed typed) fits same
      | own =>
          have same := agrees.keys (isSome_of_fromKey first) (isSome_of_fromKey second)
          exact eq_of_sameInFile formed typed first second same

/-! ## The layers of agreeing sources -/

/-- The place of a source among the others, the one that counts first is 0. -/
def rank : Source → Nat
  | .primary => 0
  | .legacy => 1
  | .own => 2
  | .older => 3

/-- The source sets a value and none of higher rank does. -/
def Wins (values : String → Option String) (f : File) (s : Setting) (source : Source) : Prop :=
  (∃ v, source.Sets values f s v) ∧
    ∀ higher : Source, higher.rank < source.rank → ∀ v, ¬higher.Sets values f s v

theorem highest_of_wins (formed : f.WellFormed) (double : s ∈ Setting.receiverAliases)
    {winner : Source} (wins : winner.Wins values f s) :
    highest values f s = winner.supply values f s := by
  obtain ⟨⟨v, sets⟩, others⟩ := wins
  have supplied := (sets_iff formed double).mp sets
  have nothing : ∀ higher : Source, higher.rank < winner.rank →
      higher.supply values f s = none := by
    intro higher lower
    rw [Option.eq_none_iff_forall_ne_some]
    intro w found
    exact others higher lower w ((sets_iff formed double).mpr found)
  have first := nothing .primary
  have second := nothing .legacy
  have third := nothing .own
  rw [highest_eq_or, supplied]
  cases winner with
  | primary => rw [supplied, Option.some_or, Option.some_or]
  | legacy => rw [first (by decide), supplied, Option.none_or, Option.some_or]
  | own => rw [first (by decide), second (by decide), supplied, Option.none_or, Option.none_or,
      Option.some_or]
  | older => rw [first (by decide), second (by decide), third (by decide), supplied,
      Option.none_or, Option.none_or, Option.none_or]

theorem leaf_of_wins (formed : f.WellFormed) (typed : s ∈ Setting.typedAliases)
    {start below merged : Layered} (fromFile : Yields values (f.merge start) below)
    (fromVariables : Yields values (VariableLayer.merge below) merged) {winner : Source} {v : Value}
    (wins : winner.Wins values f s) (sets : winner.Sets values f s v) :
    merged.config.leaf s = v := by
  have double := mem_aliases_of_typed typed
  have ruled : s.isRanked = true ∧ s ≠ .receiverAuthMode := by
    have each : ∀ s ∈ Setting.typedAliases, s.isRanked = true ∧ s ≠ .receiverAuthMode := by decide
    exact each s typed
  obtain ⟨folded, looped, same⟩ := yields_bind.mp fromVariables
  have layers := leaf_of_layers formed fromFile looped ruled.1
    (Or.inl (File.no_table_of_alias double))
  rw [highest_of_wins formed double wins, (sets_iff formed double).mp sets] at layers
  rw [← yields_pure.mp same]
  exact (VariableLayer.at_tidy (c := .own s) ruled.2).trans layers

/-- If the checks pass, sources under different names that set a setting set it to one value, and
the layers make just this value of them. -/
theorem agree_of_checks {origin text : String} (decoded : File.decode origin text = .ok f)
    (recorded : p.Records f) (passes : Passes values f p) {start below merged : Layered}
    (fromFile : Yields values (f.merge start) below)
    (fromVariables : Yields values (VariableLayer.merge below) merged)
    (typed : s ∈ Setting.typedAliases) :
    (∀ a b : Source, a.isOlder ≠ b.isOlder →
      ∀ v w, a.Sets values f s v → b.Sets values f s w → v = w) ∧
    ∀ winner : Source, winner.Wins values f s →
      ∀ other : Source, other.isOlder ≠ winner.isOlder →
        ∀ w, other.Sets values f s w → merged.config.leaf s = w := by
  have formed := File.wellFormed_of_decode decoded
  have double := mem_aliases_of_typed typed
  have agrees := passes.agrees (File.encloses_of_decode decoded) recorded double
  have agree : ∀ a b : Source, a.isOlder ≠ b.isOlder →
      ∀ v w, a.Sets values f s v → b.Sets values f s w → v = w := by
    intro a b differ v w first second
    have suppliedFirst := (sets_iff formed double).mp first
    have suppliedSecond := (sets_iff formed double).mp second
    rcases isOlder_cases differ with ⟨underOlder, underNewer⟩ | ⟨underOlder, underNewer⟩
    · exact eq_of_supply formed agrees typed underOlder underNewer suppliedFirst
        suppliedSecond
    · exact (eq_of_supply formed agrees typed underOlder underNewer suppliedSecond
        suppliedFirst).symm
  refine ⟨agree, fun winner wins other differ w sets => ?_⟩
  obtain ⟨v, winnerSets⟩ := wins.1
  rw [leaf_of_wins formed typed fromFile fromVariables wins winnerSets]
  exact agree winner other (Ne.symm differ) v w winnerSets sets

/-- Two seconds in the file and two thousand milliseconds in a variable agree. -/
theorem agree_of_checks_timeout :
    let env : Environment := ⟨[("XG2G_E2_TIMEOUT", "2000ms")]⟩
    ∃ f below merged, File.decode "config" "openWebIF:\n  timeout: 2s\n" = .ok f ∧
      Yields env.get? (f.merge { config := .empty }) below ∧
        Yields env.get? (VariableLayer.merge below) merged ∧
          Source.older.Sets env.get? f .receiverTimeout (.duration (.ofSeconds 2)) ∧
            merged.config.leaf .receiverTimeout = .duration (.ofSeconds 2) := by
  intro env
  let p : Presence := { legacy := ["timeout"] }
  obtain ⟨f, decoded, facts⟩ := exists_ok_of_any
    (File.decode "config" "openWebIF:\n  timeout: 2s\n")
    (fun f =>
      decide (p.Records f) && decide (Passes env.get? f p) &&
        ((f.merge { config := .empty }).run env.get?).result.toBool &&
        decide (Source.older.supply env.get? f .receiverTimeout =
          some (.duration (.ofSeconds 2))) &&
        decide (Source.primary.supply env.get? f .receiverTimeout =
          some (.duration (.ofSeconds 2))))
    (by decide +kernel)
  simp only [Bool.and_eq_true, decide_eq_true_eq] at facts
  obtain ⟨⟨⟨⟨recorded, passes⟩, fromFile⟩, older⟩, primary⟩ := facts
  obtain ⟨below, fromFile⟩ := exists_ok_of_toBool _ fromFile
  have noTokens : Variable.filled env.get? "XG2G_API_TOKENS" = none := by decide +kernel
  obtain ⟨merged, fromVariables⟩ := VariableLayer.exists_of_merge noTokens below
  have double : Setting.receiverTimeout ∈ Setting.receiverAliases := by decide
  have formed := File.wellFormed_of_decode decoded
  have setsOlder := (sets_iff formed double).mpr older
  have setsPrimary := (sets_iff formed double).mpr primary
  have wins : Source.primary.Wins env.get? f .receiverTimeout :=
    ⟨⟨_, setsPrimary⟩, fun higher lower => absurd lower (Nat.not_lt_zero _)⟩
  obtain ⟨_, merges⟩ := agree_of_checks decoded recorded passes fromFile fromVariables
    (s := .receiverTimeout) (by decide)
  exact ⟨f, below, merged, decoded, fromFile, fromVariables, setsOlder,
    merges .primary wins .older (by decide) _ setsOlder⟩

end Source

end LayeredConfig
