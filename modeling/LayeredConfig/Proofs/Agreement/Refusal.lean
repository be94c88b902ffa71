import LayeredConfig.Proofs.Agreement.Text
import LayeredConfig.Proofs.Conflict

/-!
# What a refusal of two names means

A check that fails names two sources of one setting, one under each name.  The
readers of the checks are not those of the layers, so a named source need not
set anything.  A key that is written counts, be it without a value or with a text
that is no duration.  Milliseconds are counted without a sign, so the check sees
a zero, and numbers that the layer takes for too large.  No other source that
sets nothing is named, in particular no variable that is blank or cannot be read.

Where both named sources set the setting, they set different values, unless the
key's text and the variable's are the same and the check replaces references in
the latter once more.

Main statement: `Alias.disputed_of_refuses`, and the counterexample
`Alias.undisputed_refusals`.
-/

namespace LayeredConfig

open Text Number Reading Success Alias

variable {values : String → Option String} {f : File} {p : Presence} {s : Setting} {a b : Source}

/-! ## Sources that set nothing -/

/-- A key that has no value or, where a duration is due, a text that is none. -/
def File.Lacks (f : File) (k : FileKey) : Prop :=
  f.value k = none ∨
    k.setting.kind = .duration ∧ ∃ raw, f.value k = some (.text raw) ∧
      ∀ d, Duration.read raw ≠ .ok d

namespace Source

/-- A key that is written, but supplies nothing. -/
def IsBare (f : File) (p : Presence) (s : Setting) : Source → Prop
  | .own => p.hasCanonical s.lastStep = true ∧ f.Lacks (.own s)
  | .older => p.hasLegacy s.lastStep = true ∧ f.Lacks (.older s)
  | .primary | .legacy => False

/-- A variable of milliseconds that is zero or more than a signed number can hold. -/
def IsMiscounted (values : String → Option String) (s : Setting) : Source → Prop
  | .legacy => s.olderCountsMillis = true ∧
      ∃ raw n, Variable.filled values (olderVariable s) = some raw ∧
        readBits 64 (trim raw.toList) = some n ∧ (n = 0 ∨ fitsInt64 n = false)
  | .primary | .own | .older => False

/-- The text of a variable is what the text of a key comes to. -/
def Repeats (values : String → Option String) (f : File) (k : FileKey) (name : String) : Prop :=
  k.setting.kind = .text ∧ ∃ raw, f.value k = some (.text raw) ∧
    Variable.filled values name = some (expanded values raw)

/-- One of two sources is a key, the other a variable that repeats its text. -/
def Echoes (values : String → Option String) (f : File) (s : Setting) : Source → Source → Prop
  | .older, .primary => Repeats values f (.older s) (newerVariable s)
  | .legacy, .own => Repeats values f (.own s) (olderVariable s)
  | _, _ => False

/-- A check counts the source as given. -/
def IsSeen (values : String → Option String) (p : Presence) (s : Setting) : Source → Prop
  | .primary => ∃ given, compared values s (newerVariable s) false = some given
  | .legacy => ∃ given, compared values s (olderVariable s) s.olderCountsMillis = some given
  | .own => p.hasCanonical s.lastStep = true
  | .older => p.hasLegacy s.lastStep = true

theorem mem_ranked (source : Source) : source ∈ ranked := by
  cases source <;> decide

def name (s : Setting) : Source → String
  | .primary => newerVariable s
  | .legacy => olderVariable s
  | .own => (FileKey.own s).path
  | .older => (FileKey.older s).path

end Source

namespace Alias

/-- One of the three checks of receiver settings fails. -/
def Refuses (values : String → Option String) (f : File) (p : Presence) (e : Failure) : Prop :=
  ((checkKeys f p).run values).result = .error e ∨
    ((checkKeysAndVariables f p).run values).result = .error e ∨
      (checkVariables.run values).result = .error e

/-- The failure that names a source under the older name and one under the newer name. -/
def refusal (s : Setting) (a b : Source) : Failure :=
  { cause := .aliasConflict .receiver (a.name s) (b.name s) }

/-- Some setting has two sources under different names that set different values. -/
def Disputed (values : String → Option String) (f : File) : Prop :=
  ∃ s ∈ Setting.receiverAliases, ∃ a b : Source, a.isOlder ≠ b.isOlder ∧
    ∃ v w, a.Sets values f s v ∧ b.Sets values f s w ∧ v ≠ w

/-! ## What the checks compared -/

/-- A check saw two sources of a setting, and they do not agree as it compares them. -/
inductive Clash (values : String → Option String) (f : File) (p : Presence) (s : Setting) :
    Source → Source → Prop where
  | bothKeys (older : p.hasLegacy s.lastStep = true) (own : p.hasCanonical s.lastStep = true)
      (differ : ¬Yields values (sameInFile s (f.value (.older s)) (f.value (.own s))) true) :
      Clash values f p s .older .own
  | olderKey {given : Value} (older : p.hasLegacy s.lastStep = true)
      (seen : compared values s (newerVariable s) false = some given)
      (differ : ¬Yields values (sameAsVariable (f.value (.older s)) given) true) :
      Clash values f p s .older .primary
  | ownKey {given : Value} (own : p.hasCanonical s.lastStep = true)
      (seen : compared values s (olderVariable s) s.olderCountsMillis = some given)
      (differ : ¬Yields values (sameAsVariable (f.value (.own s)) given) true) :
      Clash values f p s .legacy .own
  | bothVariables {older newer : Value}
      (seen : compared values s (olderVariable s) s.olderCountsMillis = some older)
      (seenNewer : compared values s (newerVariable s) false = some newer)
      (differ : ¬Yields values (sameVariables older newer) true) :
      Clash values f p s .legacy .primary

/-! ## A refusal comes from a clash -/

theorem exists_of_sameDuration (text : String) (d : Duration) :
    ∃ agree, Yields values (sameDuration text d) agree := by
  unfold sameDuration
  simp only [yields_bind, yields_normal, exists_eq_left']
  split
  · exact ⟨_, yields_pure.mpr rfl⟩
  · split <;> exact ⟨_, yields_pure.mpr rfl⟩

theorem exists_of_sameAsVariable (inFile : Option Value) (given : Value) :
    ∃ agree, Yields values (sameAsVariable inFile given) agree := by
  cases given with
  | text t => exact ⟨_, yields_sameText.mpr rfl⟩
  | duration d => exact exists_of_sameDuration (textOf inFile) d
  | _ => exact ⟨_, yields_pure.mpr rfl⟩

theorem exists_of_sameVariables (older newer : Value) :
    ∃ agree, Yields values (sameVariables older newer) agree := by
  unfold sameVariables
  split
  · exact ⟨_, yields_sameText.mpr rfl⟩
  · exact ⟨_, yields_pure.mpr rfl⟩

theorem error_of_checkKeyOf {seen millis : Bool} {inFile : Option Value} {name older newer : String}
    {e : Failure}
    (failed : ((checkKeyOf seen s inFile name millis older newer).run values).result = .error e) :
    seen = true ∧ (∃ given, compared values s name millis = some given ∧
      ¬Yields values (sameAsVariable inFile given) true) ∧
        e = { cause := .aliasConflict .receiver older newer } := by
  unfold checkKeyOf at failed
  split at failed
  next shown =>
    rw [result_bind (yields_valueIn.mpr rfl)] at failed
    split at failed
    next given found =>
      obtain ⟨differ, same⟩ := error_of_demand (exists_of_sameAsVariable inFile given) failed
      exact ⟨shown, ⟨given, found, differ⟩, same⟩
    next => cases failed
  next => cases failed

theorem clash_of_keys {e : Failure} (failed : ((checkKeysOf f p s).run values).result = .error e) :
    Clash values f p s .older .own ∧ e = refusal s .older .own := by
  unfold checkKeysOf at failed
  split at failed
  next seen =>
    obtain ⟨older, own⟩ := Bool.and_eq_true_iff.mp seen
    obtain ⟨differ, same⟩ := error_of_demand ⟨_, yields_sameInFile.mpr rfl⟩ failed
    exact ⟨.bothKeys older own differ, same⟩
  next => cases failed

theorem clash_of_keysAndVariables {e : Failure}
    (failed : ((checkKeysAndVariablesOf f p s).run values).result = .error e) :
    (Clash values f p s .older .primary ∧ e = refusal s .older .primary) ∨
      (Clash values f p s .legacy .own ∧ e = refusal s .legacy .own) := by
  unfold checkKeysAndVariablesOf at failed
  rcases error_of_bind failed with first | ⟨_, _, second⟩
  · obtain ⟨older, ⟨given, seen, differ⟩, same⟩ := error_of_checkKeyOf first
    exact Or.inl ⟨.olderKey (Bool.and_eq_true_iff.mp older).2 seen differ, same⟩
  · obtain ⟨own, ⟨given, seen, differ⟩, same⟩ := error_of_checkKeyOf second
    exact Or.inr ⟨.ownKey (Bool.and_eq_true_iff.mp own).2 seen differ, same⟩

theorem clash_of_variables {e : Failure}
    (failed : ((checkVariablesOf s).run values).result = .error e) :
    Clash values f p s .legacy .primary ∧ e = refusal s .legacy .primary := by
  unfold checkVariablesOf at failed
  rw [result_bind (yields_valueIn.mpr rfl)] at failed
  split at failed
  next => cases failed
  next older seen =>
    rw [result_bind (yields_valueIn.mpr rfl)] at failed
    split at failed
    next => cases failed
    next newer seenNewer =>
      obtain ⟨differ, same⟩ := error_of_demand (exists_of_sameVariables older newer) failed
      exact ⟨.bothVariables seen seenNewer differ, same⟩

/-- Each refusal names two sources that clash, one under each name. -/
theorem Refuses.exists_clash {e : Failure} (refused : Refuses values f p e) :
    ∃ s ∈ Setting.receiverAliases, ∃ a b : Source, a.isOlder = true ∧ b.isOlder = false ∧
      e = refusal s a b ∧ Clash values f p s a b := by
  rcases refused with failed | failed | failed
  · obtain ⟨s, double, here⟩ := error_of_checkKeys failed
    obtain ⟨clash, same⟩ := clash_of_keys here
    exact ⟨s, double, .older, .own, rfl, rfl, same, clash⟩
  · obtain ⟨s, double, here⟩ := error_of_forM failed
    rcases clash_of_keysAndVariables here with ⟨clash, same⟩ | ⟨clash, same⟩
    · exact ⟨s, double, .older, .primary, rfl, rfl, same, clash⟩
    · exact ⟨s, double, .legacy, .own, rfl, rfl, same, clash⟩
  · obtain ⟨s, double, here⟩ := error_of_forM failed
    obtain ⟨clash, same⟩ := clash_of_variables here
    exact ⟨s, double, .legacy, .primary, rfl, rfl, same, clash⟩

theorem Clash.seen (clash : Clash values f p s a b) :
    a.IsSeen values p s ∧ b.IsSeen values p s := by
  cases clash with
  | bothKeys older own _ => exact ⟨older, own⟩
  | olderKey older seen _ => exact ⟨older, _, seen⟩
  | ownKey own seen _ => exact ⟨⟨_, seen⟩, own⟩
  | bothVariables seen seenNewer _ => exact ⟨⟨_, seen⟩, _, seenNewer⟩

end Alias

/-! ## Which of the sources that are seen supply a value -/

theorem File.fromKey_eq_none_iff_lacks (formed : f.WellFormed) {k : FileKey}
    (double : k.setting ∈ Setting.receiverAliases) :
    Value.fromKey values f k = none ↔ f.Lacks k := by
  unfold Value.fromKey Lacks
  cases present : f.value k with
  | none => simp
  | some given =>
      have noList : given.isEmptyList = false := by
        have apart : ∀ s ∈ Setting.receiverAliases, s.isCommaList = false := by decide
        rcases (formed k given present).2.cases with ⟨_, _, rfl⟩ | ⟨joined, _⟩ | ⟨_, _, fits⟩
        · rfl
        · rw [apart _ double] at joined
          contradiction
        · rcases kind_of_alias double with kind | kind | kind | kind
          all_goals
            rw [kind] at fits
            cases given <;> first | rfl | contradiction
      rw [Option.bind_some, Value.ofFile_eq_none_iff, noList]
      constructor
      · rintro (empty | ⟨timed, raw, rfl, unreadable⟩)
        · contradiction
        · refine Or.inr ⟨timed, raw, rfl, fun d read => ?_⟩
          rw [read] at unreadable
          cases unreadable
      · rintro (absent | ⟨timed, raw, same, unreadable⟩)
        · contradiction
        · refine Or.inr ⟨timed, raw, Option.some.inj same, ?_⟩
          rw [Option.eq_none_iff_forall_ne_some]
          exact fun d found => unreadable d (Duration.ok_of_toOption found)

namespace Source

theorem exists_ofVariable_of_compared (double : s ∈ Setting.receiverAliases) {name : String}
    {given : Value} (seen : compared values s name false = some given) :
    ∃ raw, Variable.filled values name = some raw ∧ ∃ v, Value.ofVariable s raw = some v := by
  obtain ⟨raw, filled, read⟩ := Option.bind_eq_some_iff.mp seen
  refine ⟨raw, filled, ?_⟩
  rcases File.kind_of_alias double with kind | kind | kind | kind
  all_goals simp only [Value.ofVariable, kind] at read ⊢
  · exact ⟨_, rfl⟩
  all_goals exact ⟨given, read⟩

/-- A variable of milliseconds supplies nothing if its number is zero or too large. -/
theorem ofMillis_eq_none_iff {raw : String} {n : Nat}
    (bits : readBits 64 (trim raw.toList) = some n) :
    Value.ofMillis raw = none ↔ n = 0 ∨ fitsInt64 n = false := by
  unfold Value.ofMillis Variable.parseInt
  rw [Option.map_eq_none_iff]
  constructor
  · intro nothing
    cases fits : fitsInt64 n with
    | false => exact Or.inr rfl
    | true =>
        rw [readInt64_of_readBits bits fits, Option.filter_eq_none_iff] at nothing
        have notPositive := nothing (n : Int) rfl
        simp only [decide_eq_true_eq] at notPositive
        exact Or.inl (by omega)
  · intro outside
    rw [Option.eq_none_iff_forall_ne_some]
    intro i found
    obtain ⟨read, positive⟩ := Option.filter_eq_some_iff.mp found
    have positive := of_decide_eq_true positive
    have same := readBits_of_readInt64 read positive
    rw [bits, Option.some_inj] at same
    rcases outside with zero | unfit
    · omega
    · have back : (n : Int) = i := by omega
      rw [back, fitsInt64_of_readInt64 read] at unfit
      contradiction

theorem fromOlderVariable_eq_none_iff (double : s ∈ Setting.receiverAliases)
    (seen : Source.legacy.IsSeen values p s) :
    Value.fromOlderVariable values s = none ↔ Source.legacy.IsMiscounted values s := by
  obtain ⟨given, seen⟩ := seen
  rw [Value.fromOlderVariable, (facts_of_alias double).2.1, Option.bind_some, IsMiscounted]
  by_cases millis : s.olderCountsMillis = true
  · have kind := Setting.kind_of_olderCountsMillis millis
    obtain ⟨raw, filled, read⟩ := Option.bind_eq_some_iff.mp seen
    simp only [kind, millis, if_true] at read
    obtain ⟨n, bits, _⟩ := Option.map_eq_some_iff.mp read
    rw [filled, Option.bind_some, Value.ofOlderVariable, if_pos millis, ofMillis_eq_none_iff bits]
    constructor
    · exact fun outside => ⟨millis, raw, n, rfl, bits, outside⟩
    · rintro ⟨_, raw', n', same, bits', outside⟩
      cases same
      rw [bits] at bits'
      cases bits'
      exact outside
  · rw [Bool.not_eq_true] at millis
    rw [millis] at seen ⊢
    obtain ⟨raw, filled, v, read⟩ := exists_ofVariable_of_compared double seen
    rw [filled, Option.bind_some, Value.ofOlderVariable, millis]
    simp [read]

/-- Of the sources that are seen, only keys without a readable value and miscounted milliseconds
supply nothing. -/
theorem supply_eq_none_iff (formed : f.WellFormed) (double : s ∈ Setting.receiverAliases)
    {source : Source} (seen : source.IsSeen values p s) :
    source.supply values f s = none ↔ source.IsBare f p s ∨ source.IsMiscounted values s := by
  cases source with
  | primary =>
      obtain ⟨given, seen⟩ := seen
      obtain ⟨raw, filled, v, read⟩ := exists_ofVariable_of_compared double seen
      have found : Value.fromVariable values s = some v := by
        rw [Value.fromVariable, (facts_of_alias double).1, Option.bind_some, filled,
          Option.bind_some, read]
      rw [supply, found]
      refine iff_of_false (Option.some_ne_none v) ?_
      rintro (bare | miscounted)
      · exact bare
      · exact miscounted
  | legacy =>
      rw [supply, fromOlderVariable_eq_none_iff double seen]
      exact (or_iff_right id).symm
  | own =>
      rw [supply, File.fromKey_eq_none_iff_lacks (k := .own s) formed double]
      exact ⟨fun lacks => Or.inl ⟨seen, lacks⟩, fun either => (either.resolve_right id).2⟩
  | older =>
      rw [supply, File.fromKey_eq_none_iff_lacks (k := .older s) formed double]
      exact ⟨fun lacks => Or.inl ⟨seen, lacks⟩, fun either => (either.resolve_right id).2⟩

/-- A source that is seen sets the setting, unless it is such a key or such milliseconds. -/
theorem exists_sets_iff (formed : f.WellFormed) (double : s ∈ Setting.receiverAliases)
    {source : Source} (seen : source.IsSeen values p s) :
    (∃ v, source.Sets values f s v) ↔
      ¬source.IsBare f p s ∧ ¬source.IsMiscounted values s := by
  simp only [sets_iff formed double]
  rw [← Option.ne_none_iff_exists', Ne, supply_eq_none_iff formed double seen, not_or]

end Source

/-! ## What the values of clashing sources are -/

namespace Alias

variable {v w : Value}

theorem yields_sameVariables_self (v : Value) : Yields values (sameVariables v v) true := by
  cases v with
  | text t => exact yields_sameText.mpr (beq_self_eq_true _)
  | _ => exact yields_pure.mpr (beq_self_eq_true _)

theorem yields_sameDurationText_of_read {x y : String} {d : Duration}
    (first : Duration.read x = .ok d) (second : Duration.read y = .ok d) :
    Yields values (sameDurationText x y) true := by
  have readFirst := read_normalText values first
  have readSecond := read_normalText values second
  unfold sameDurationText
  simp only [yields_bind, yields_normal, exists_eq_left', not_isEmpty_of_read readFirst,
    Bool.false_and, readFirst, readSecond]
  exact yields_pure.mpr (beq_self_eq_true d)

theorem yields_sameDuration_of_read {x : String} {d : Duration} (read : Duration.read x = .ok d) :
    Yields values (sameDuration x d) true := by
  have readText := read_normalText values read
  unfold sameDuration
  simp only [yields_bind, yields_normal, exists_eq_left', not_isEmpty_of_read readText, readText]
  exact yields_pure.mpr (beq_self_eq_true d)

/-- Keys that supply one value agree. -/
theorem yields_sameInFile_of_fromKey (formed : f.WellFormed) (double : s ∈ Setting.receiverAliases)
    (older : Value.fromKey values f (.older s) = some v)
    (own : Value.fromKey values f (.own s) = some v) :
    Yields values (sameInFile s (f.value (.older s)) (f.value (.own s))) true := by
  unfold sameInFile
  rcases Setting.cases_of_alias double with textual | typed
  · obtain ⟨x, givenOlder, rfl⟩ := Source.replaced_of_key formed older textual
    obtain ⟨y, givenOwn, same⟩ := Source.replaced_of_key formed own textual
    rw [(Setting.facts_of_text textual).2.1, givenOlder, givenOwn]
    have equal : normalText values x = normalText values y := by
      rw [normalText, Value.text.inj same, normalText]
    exact yields_sameText.mpr (beq_of_eq equal)
  · rcases Setting.kind_of_typed typed with timed | plain
    · obtain ⟨x, d, givenOlder, readOlder, rfl⟩ := text_of_fromKey formed older timed
      obtain ⟨y, d', givenOwn, readOwn, same⟩ := text_of_fromKey formed own timed
      cases same
      rw [timed, givenOlder, givenOwn]
      exact yields_sameDurationText_of_read readOlder readOwn
    · rw [value_of_fromKey formed older plain, value_of_fromKey formed own plain]
      rcases plain with kind | kind
      all_goals
        rw [kind]
        exact yields_pure.mpr (beq_self_eq_true _)

/-- A key that is no text agrees with a variable of its value. -/
theorem yields_sameAsVariable_of_fromKey (formed : f.WellFormed) {k : FileKey}
    (typed : k.setting ∈ Setting.typedAliases) (found : Value.fromKey values f k = some v) :
    Yields values (sameAsVariable (f.value k) v) true := by
  unfold sameAsVariable
  rcases Setting.kind_of_typed typed with timed | plain
  · obtain ⟨raw, d, present, read, rfl⟩ := text_of_fromKey formed found timed
    rw [present]
    exact yields_sameDuration_of_read read
  · have fits := File.isOf_of_fromKey formed found
    rw [value_of_fromKey formed found plain]
    rcases plain with kind | kind
    all_goals
      rw [kind] at fits
      cases v <;> first | contradiction | exact yields_pure.mpr (beq_self_eq_true _)

theorem bind_ofVariable (textual : s ∈ Setting.textAliases) (filled : Option String) :
    filled.bind (Value.ofVariable s) = filled.map Value.text := by
  cases filled with
  | none => rfl
  | some raw => simp [Value.ofVariable, (Setting.facts_of_text textual).2.1]

theorem text_of_fromVariable (textual : s ∈ Setting.textAliases)
    (found : Value.fromVariable values s = some v) :
    (Variable.filled values (newerVariable s)).map Value.text = some v := by
  obtain ⟨double, _⟩ := Setting.facts_of_text textual
  rw [Value.fromVariable, (Source.facts_of_alias double).1, Option.bind_some,
    bind_ofVariable textual] at found
  exact found

theorem text_of_fromOlderVariable (textual : s ∈ Setting.textAliases)
    (found : Value.fromOlderVariable values s = some v) :
    (Variable.filled values (olderVariable s)).map Value.text = some v := by
  obtain ⟨double, _, noMillis, _⟩ := Setting.facts_of_text textual
  have plain : Value.ofOlderVariable s = Value.ofVariable s := by
    funext raw
    rw [Value.ofOlderVariable, noMillis]
    rfl
  rw [Value.fromOlderVariable, (Source.facts_of_alias double).2.1, Option.bind_some, plain,
    bind_ofVariable textual] at found
  exact found

/-- A key and a variable that do not agree have different values, unless the variable repeats the
key. -/
theorem eq_iff_repeats (formed : f.WellFormed) {k : FileKey}
    (double : k.setting ∈ Setting.receiverAliases) {name : String}
    (found : Value.fromKey values f k = some v) (fits : w.IsOf k.setting.kind)
    (text : k.setting ∈ Setting.textAliases → (Variable.filled values name).map Value.text = some w)
    (differ : ¬Yields values (sameAsVariable (f.value k) w.trimmed) true) :
    v = w ↔ Source.Repeats values f k name := by
  rcases Setting.cases_of_alias double with textual | typed
  · obtain ⟨raw, present, rfl⟩ := Source.replaced_of_key formed found textual
    have kind := (Setting.facts_of_text textual).2.1
    obtain ⟨t, filled, rfl⟩ := Option.map_eq_some_iff.mp (text textual)
    -- the check expands the variable's text too, so it may tell two equal texts apart
    constructor
    · intro same
      refine ⟨kind, raw, present, ?_⟩
      rw [filled, Value.text.inj same]
    · rintro ⟨_, raw', present', filled'⟩
      rw [present] at present'
      rw [filled] at filled'
      cases present'
      exact congrArg Value.text (Option.some.inj filled').symm
  · have noText : k.setting.kind ≠ .text := by
      rcases Setting.kind_of_typed typed with kind | kind | kind <;> simp [kind]
    refine iff_of_false ?_ fun repeats => noText repeats.1
    rintro rfl
    rw [Value.trimmed_eq (Setting.kind_of_typed typed) fits] at differ
    exact differ (yields_sameAsVariable_of_fromKey formed typed found)

/-- Clashing sources supply different values, unless one repeats the other. -/
theorem Clash.eq_iff (clash : Clash values f p s a b) (formed : f.WellFormed)
    (double : s ∈ Setting.receiverAliases) (first : a.supply values f s = some v)
    (second : b.supply values f s = some w) : v = w ↔ Source.Echoes values f s a b := by
  cases clash with
  | bothKeys _ _ differ =>
      refine iff_of_false ?_ id
      rintro rfl
      exact differ (yields_sameInFile_of_fromKey formed double first second)
  | olderKey _ seen differ =>
      have same := compared_of_fromVariable double second
      rw [seen] at same
      cases same
      exact eq_iff_repeats (k := .older s) formed double first
        (Value.isOf_of_fromVariable second)
        (fun textual => text_of_fromVariable (s := s) textual second) differ
  | ownKey _ seen differ =>
      have same := compared_of_fromOlderVariable double first
      rw [seen] at same
      cases same
      rw [eq_comm]
      exact eq_iff_repeats (k := .own s) formed double second
        (Value.isOf_of_fromOlderVariable first)
        (fun textual => text_of_fromOlderVariable (s := s) textual first) differ
  | bothVariables seen seenNewer differ =>
      refine iff_of_false ?_ id
      rintro rfl
      have same := compared_of_fromOlderVariable double first
      have sameNewer := compared_of_fromVariable double second
      rw [seen] at same
      rw [seenNewer] at sameNewer
      cases same
      cases sameNewer
      exact differ (yields_sameVariables_self _)

/-- A check that fails names two sources of one setting under different names.  Each of them sets
the setting when it is merged alone, or it is a key without a readable value or a variable of
miscounted milliseconds.  If both set it, they set different values, or the variable repeats the
key. -/
theorem disputed_of_refuses {origin text : String} (decoded : File.decode origin text = .ok f)
    {e : Failure} (refused : Refuses values f p e) :
    ∃ s ∈ Setting.receiverAliases, ∃ a b : Source, a.isOlder = true ∧ b.isOlder = false ∧
      e = refusal s a b ∧
        (∀ source : Source, source = a ∨ source = b →
          ((∃ v, source.Sets values f s v) ↔
            ¬source.IsBare f p s ∧ ¬source.IsMiscounted values s)) ∧
          ∀ v w, a.Sets values f s v → b.Sets values f s w →
            (v ≠ w ↔ ¬Source.Echoes values f s a b) := by
  have formed := File.wellFormed_of_decode decoded
  obtain ⟨s, double, a, b, older, newer, same, clash⟩ := refused.exists_clash
  obtain ⟨seenOlder, seenNewer⟩ := clash.seen
  refine ⟨s, double, a, b, older, newer, same, ?_, fun v w first second => ?_⟩
  · rintro source (rfl | rfl)
    · exact Source.exists_sets_iff formed double seenOlder
    · exact Source.exists_sets_iff formed double seenNewer
  · have suppliedFirst := (Source.sets_iff formed double).mp first
    have suppliedSecond := (Source.sets_iff formed double).mp second
    exact not_congr (clash.eq_iff formed double suppliedFirst suppliedSecond)

/-- The two names in a refusal tell which sources of which setting it is about. -/
theorem refusal_inj {t : Setting} {c d : Source} (double : s ∈ Setting.receiverAliases)
    (double' : t ∈ Setting.receiverAliases) (same : refusal s a b = refusal t c d) :
    s = t ∧ a = c ∧ b = d := by
  have each : ∀ s ∈ Setting.receiverAliases, ∀ t ∈ Setting.receiverAliases,
      ∀ a ∈ Source.ranked, ∀ c ∈ Source.ranked, a.name s = c.name t → s = t ∧ a = c := by
    decide +kernel
  simp only [refusal, Failure.mk.injEq, Cause.aliasConflict.injEq, true_and] at same
  obtain ⟨setting, older⟩ := each s double t double' a a.mem_ranked c c.mem_ranked same.1
  exact ⟨setting, older, (each s double t double' b b.mem_ranked d d.mem_ranked same.2).2⟩

/-- An address in the older block against another one in the variable. -/
theorem disputed_of_refuses_baseUrl :
    let env : Environment := ⟨[("XG2G_E2_HOST", "http://b")]⟩
    let text := "openWebIF:\n  baseUrl: http://a\n"
    ∃ f p, File.decode "config" text = .ok f ∧ Presence.ofText text = .ok p ∧
      Refuses env.get? f p (refusal .receiverBaseUrl .older .primary) ∧
        ∃ v w, Source.older.Sets env.get? f .receiverBaseUrl v ∧
          Source.primary.Sets env.get? f .receiverBaseUrl w ∧ v ≠ w := by
  intro env text
  let p : Presence := { legacy := ["baseUrl"], paths := ["openWebIF", "openWebIF.baseUrl"] }
  obtain ⟨_, scanned, same⟩ := exists_ok_of_any (Presence.ofText text) (fun found => found == p)
    (by decide +kernel)
  cases eq_of_beq same
  obtain ⟨f, decoded, facts⟩ := exists_ok_of_any (File.decode "config" text)
    (fun f => decide (f.value (.older .receiverBaseUrl) = some (.text "http://a")) &&
      decide (((checkKeysAndVariables f p).run env.get?).result =
        .error (refusal .receiverBaseUrl .older .primary)))
    (by decide +kernel)
  simp only [Bool.and_eq_true, decide_eq_true_eq] at facts
  obtain ⟨present, failed⟩ := facts
  have refused : Refuses env.get? f p (refusal .receiverBaseUrl .older .primary) :=
    Or.inr (Or.inl failed)
  obtain ⟨s, double, a, b, _, _, named, sets, differ⟩ := disputed_of_refuses decoded refused
  obtain ⟨rfl, rfl, rfl⟩ := refusal_inj (by decide) double named
  have notBare : ¬Source.older.IsBare f p .receiverBaseUrl := by
    rintro ⟨_, absent | ⟨timed, _⟩⟩
    · rw [present] at absent
      contradiction
    · contradiction
  obtain ⟨v, first⟩ := (sets .older (Or.inl rfl)).mpr ⟨notBare, id⟩
  obtain ⟨w, second⟩ := (sets .primary (Or.inr rfl)).mpr ⟨id, id⟩
  refine ⟨f, p, decoded, scanned, refused, v, w, first, second, (differ v w first second).mpr ?_⟩
  rintro ⟨_, raw, present', filled⟩
  rw [present] at present'
  cases present'
  exact absurd filled (by decide +kernel)

/-- No setting has two sources under different names that supply different values. -/
def Undivided (values : String → Option String) (f : File) : Prop :=
  ∀ s ∈ Setting.receiverAliases, ∀ a ∈ Source.ranked, ∀ b ∈ Source.ranked,
    a.isOlder = b.isOlder ∨ a.supply values f s = none ∨ b.supply values f s = none ∨
      a.supply values f s = b.supply values f s

instance (values : String → Option String) (f : File) : Decidable (Undivided values f) :=
  inferInstanceAs (Decidable (∀ s ∈ Setting.receiverAliases, ∀ a ∈ Source.ranked,
    ∀ b ∈ Source.ranked,
      a.isOlder = b.isOlder ∨ a.supply values f s = none ∨ b.supply values f s = none ∨
        a.supply values f s = b.supply values f s))

theorem Undivided.not_disputed (undivided : Undivided values f) (formed : f.WellFormed) :
    ¬Disputed values f := by
  rintro ⟨s, double, a, b, apart, v, w, first, second, differ⟩
  have suppliedFirst := (Source.sets_iff formed double).mp first
  have suppliedSecond := (Source.sets_iff formed double).mp second
  rcases undivided s double a a.mem_ranked b b.mem_ranked with same | nothing | nothing | same
  · exact apart same
  · rw [suppliedFirst] at nothing
    contradiction
  · rw [suppliedSecond] at nothing
    contradiction
  · rw [suppliedFirst, suppliedSecond] at same
    exact differ (Option.some.inj same)

/-- Sources that set nothing, or the same, are refused: a key without a value, a text that is no
duration, no milliseconds at all, and a variable that repeats the text of a key. -/
theorem undisputed_refusals :
    (let env : Environment :=
      ⟨[("XG2G_E2_HOST", "http://b"), ("XG2G_OWI_BACKOFF_MS", "0"), ("XG2G_E2_BACKOFF", "5s")]⟩
    let text := "openWebIF:\n  baseUrl:\n  timeout: soon\nenigma2:\n  timeout: 5s\n"
    ∃ f p, File.decode "config" text = .ok f ∧ Presence.ofText text = .ok p ∧
      ((checkKeys f p).run env.get?).result = .error (refusal .receiverTimeout .older .own) ∧
        ((checkKeysAndVariables f p).run env.get?).result =
            .error (refusal .receiverBaseUrl .older .primary) ∧
          (checkVariables.run env.get?).result =
              .error (refusal .receiverBackoff .legacy .primary) ∧
            ¬Disputed env.get? f) ∧
    (let env : Environment := ⟨[("A", "$V"), ("V", "x"), ("XG2G_OWI_USER", "$V")]⟩
    let text := "enigma2:\n  username: $A\n"
    ∃ f p, File.decode "config" text = .ok f ∧ Presence.ofText text = .ok p ∧
      ((checkKeysAndVariables f p).run env.get?).result =
          .error (refusal .receiverUsername .legacy .own) ∧
        ¬Disputed env.get? f) := by
  constructor
  · intro env text
    let p : Presence :=
      { legacy := ["baseUrl", "timeout"]
        canonical := ["timeout"]
        paths := ["openWebIF", "openWebIF.baseUrl", "openWebIF.timeout", "enigma2",
          "enigma2.timeout"] }
    obtain ⟨_, scanned, same⟩ := exists_ok_of_any (Presence.ofText text) (fun found => found == p)
      (by decide +kernel)
    cases eq_of_beq same
    obtain ⟨f, decoded, facts⟩ := exists_ok_of_any (File.decode "config" text)
      (fun f => decide (((checkKeys f p).run env.get?).result =
          .error (refusal .receiverTimeout .older .own)) &&
        decide (((checkKeysAndVariables f p).run env.get?).result =
          .error (refusal .receiverBaseUrl .older .primary)) &&
        decide (Undivided env.get? f))
      (by decide +kernel)
    simp only [Bool.and_eq_true, decide_eq_true_eq] at facts
    obtain ⟨⟨ofKeys, ofBoth⟩, undivided⟩ := facts
    exact ⟨f, p, decoded, scanned, ofKeys, ofBoth, by decide +kernel,
      undivided.not_disputed (File.wellFormed_of_decode decoded)⟩
  · intro env text
    let p : Presence := { canonical := ["username"], paths := ["enigma2", "enigma2.username"] }
    obtain ⟨_, scanned, same⟩ := exists_ok_of_any (Presence.ofText text) (fun found => found == p)
      (by decide +kernel)
    cases eq_of_beq same
    obtain ⟨f, decoded, facts⟩ := exists_ok_of_any (File.decode "config" text)
      (fun f => decide (((checkKeysAndVariables f p).run env.get?).result =
          .error (refusal .receiverUsername .legacy .own)) &&
        decide (Undivided env.get? f))
      (by decide +kernel)
    simp only [Bool.and_eq_true, decide_eq_true_eq] at facts
    obtain ⟨ofBoth, undivided⟩ := facts
    exact ⟨f, p, decoded, scanned, ofBoth,
      undivided.not_disputed (File.wellFormed_of_decode decoded)⟩

end Alias

end LayeredConfig
