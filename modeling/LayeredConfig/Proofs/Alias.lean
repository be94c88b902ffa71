import LayeredConfig.Alias
import LayeredConfig.Proofs.References
import LayeredConfig.Proofs.Variable

/-!
# What a passed check of two names means

Each check of two names passes exactly if the values it finds agree.  The values
it finds in variables are a function of the environment, `Alias.compared`, and
texts are compared in the form `Alias.normalText`.

Main statements: `Alias.yields_checkKeysOf`, `Alias.yields_checkKeysAndVariablesOf`,
`Alias.yields_checkVariablesOf`, `Alias.yields_checkRecordingOf`.
-/

namespace LayeredConfig.Alias

open Text Number Reading

variable {values : String → Option String} {f : File} {p : Presence} {s : Setting}

/-! ## What is compared -/

def normalText (values : String → Option String) (text : String) : String :=
  String.ofList (trim (expanded values text).toList)

@[simp] theorem yields_normal {text result : String} :
    Yields values (normal text) result ↔ normalText values text = result := by
  simp [normal, normalText]

@[simp] theorem yields_sameText {a b : String} {agree : Bool} :
    Yields values (sameText a b) agree ↔ (normalText values a == normalText values b) = agree := by
  simp [sameText]

/-- The value of a variable that is compared. -/
def compared (values : String → Option String) (s : Setting) (name : String) (millis : Bool) :
    Option Value :=
  (Variable.filled values name).bind fun raw =>
    let text := trim raw.toList
    match s.kind with
    | .text => some (.text (String.ofList text))
    | .duration =>
        if millis then (readBits 64 text).map fun n => .duration (.ofMillis n)
        else (Duration.read raw).toOption.map .duration
    | .int => (readInt64 text).map .int
    | .bool => (Variable.parseBool raw).map .bool
    | _ => none

@[simp] theorem yields_valueIn {name : String} {millis : Bool} {v : Option Value} :
    Yields values (valueIn s name millis) v ↔ compared values s name millis = v := by
  simp only [valueIn, compared, yields_bind, Variable.yields_nonblank, exists_eq_left']
  cases Variable.filled values name with
  | none => simp
  | some raw =>
      cases s.kind <;> simp
      split <;> simp

@[simp] theorem yields_demand {agree : Bool} {family : AliasFamily} {older newer : String}
    {u : Unit} : Yields values (demand agree family older newer) u ↔ agree = true := by
  cases agree <;> simp [demand]

/-! ## The checks -/

theorem yields_checkKeysOf :
    Yields values (checkKeysOf f p s) () ↔
      (p.hasLegacy s.lastStep = true → p.hasCanonical s.lastStep = true →
        Yields values (sameInFile s (f.value (.older s)) (f.value (.own s))) true) := by
  unfold checkKeysOf
  split <;> simp_all

/-- The check of the keys asks for both blocks. -/
theorem yields_checkKeys :
    Yields values (checkKeys f p) () ↔
      (f.hasBlock [FileKey.olderBlock] = true → f.hasBlock [FileKey.receiverBlock] = true →
        ∀ s ∈ Setting.receiverAliases, Yields values (checkKeysOf f p s) ()) := by
  unfold checkKeys
  split
  next both =>
    obtain ⟨older, own⟩ := Bool.and_eq_true_iff.mp both
    rw [yields_forM, older, own]
    simp
  next missing =>
    refine iff_of_true (yields_pure.mpr rfl) fun older own => absurd ?_ missing
    rw [older, own]
    rfl

theorem yields_checkKeyOf {seen millis : Bool} {inFile : Option Value}
    {name older newer : String} {u : Unit} :
    Yields values (checkKeyOf seen s inFile name millis older newer) u ↔
      (seen = true → ∀ given, compared values s name millis = some given →
        Yields values (sameAsVariable inFile given) true) := by
  unfold checkKeyOf
  cases seen <;> cases found : compared values s name millis <;> simp [found]

theorem yields_checkKeysAndVariablesOf :
    Yields values (checkKeysAndVariablesOf f p s) () ↔
      (f.hasBlock [FileKey.olderBlock] = true → p.hasLegacy s.lastStep = true →
        ∀ given, compared values s (newerVariable s) false = some given →
          Yields values (sameAsVariable (f.value (.older s)) given) true) ∧
      (f.hasBlock [FileKey.receiverBlock] = true → p.hasCanonical s.lastStep = true →
        ∀ given, compared values s (olderVariable s) s.olderCountsMillis = some given →
          Yields values (sameAsVariable (f.value (.own s)) given) true) := by
  simp only [checkKeysAndVariablesOf, yields_bind, yields_checkKeyOf, Bool.and_eq_true, and_imp,
    exists_const]

theorem yields_checkVariablesOf :
    Yields values (checkVariablesOf s) () ↔
      ∀ older newer, compared values s (olderVariable s) s.olderCountsMillis = some older →
        compared values s (newerVariable s) false = some newer →
          Yields values (sameVariables older newer) true := by
  unfold checkVariablesOf
  cases older : compared values s (olderVariable s) s.olderCountsMillis <;>
    cases newer : compared values s (newerVariable s) false <;>
    simp [older, newer]

theorem yields_checkRecording :
    Yields values (checkRecording f) () ↔
      (f.hasBlock [FileKey.recordingBlock] = true →
        ∀ s ∈ recordingSettings, Yields values (checkRecordingOf f s) ()) := by
  unfold checkRecording
  split
  next stands =>
    rw [yields_forM, stands]
    simp
  next missing => simp [missing]

theorem yields_checkRecordingOf :
    Yields values (checkRecordingOf f s) () ↔
      ∀ inFile given, f.value (.own s) = some inFile →
        compared values s (olderVariable s) false = some given →
          Yields values (sameAsVariable (some inFile) given) true := by
  unfold checkRecordingOf
  cases own : f.value (.own s) <;>
    cases older : compared values s (olderVariable s) false <;>
    simp [older]

end LayeredConfig.Alias
