import LayeredConfig.Proofs.Config
import LayeredConfig.Proofs.Reading
import LayeredConfig.VariableLayer

/-!
# What a variable supplies

A variable supplies a value to a setting if its text is not blank and stands for
a value of the setting's kind.  Here this rule is a function of the text,
`Value.ofVariable`, and every reader of a variable is shown to follow it.

Main statements: `VariableLayer.eq_of_yields_read`,
`VariableLayer.eq_of_yields_readOlder`.
-/

namespace LayeredConfig

open Text Number Reading

variable {values : String → Option String}

/-! ## The rule -/

def Variable.filled (values : String → Option String) (name : String) : Option String :=
  (values name).filter fun v => !isBlankText v.toList

namespace Value

/-- The value that the text of a variable stands for. -/
def ofVariable (s : Setting) (raw : String) : Option Value :=
  match s.kind with
  | .text | .optionalText => some (.text raw)
  | .int => (Variable.parseInt raw).map .int
  | .bool => (Variable.parseBool raw).map .bool
  | .float => (Variable.parseFloat raw).map .float
  | .duration => (Variable.parseDuration raw).map .duration
  | .texts => some (.texts (commaList raw))
  | .ints =>
      if s = .engineTunerSlots then (TunerSlot.readAll raw).toOption.map .ints
      else some (.ints ((segments ',' raw.toList).filterMap readInt64))
  | .tokens => (ScopedToken.readAll raw).toOption.map .tokens
  | .table | .mappings | .libraryRoots => none

def ofMillis (raw : String) : Option Value :=
  ((Variable.parseInt raw).filter (0 < ·)).map fun n => .duration (.ofMillis n.toNat)

def ofOlderVariable (s : Setting) (raw : String) : Option Value :=
  if s.olderCountsMillis then ofMillis raw else ofVariable s raw

def fromVariable (values : String → Option String) (s : Setting) : Option Value :=
  s.row.primary.bind fun name => (Variable.filled values name).bind (ofVariable s)

def fromOlderVariable (values : String → Option String) (s : Setting) : Option Value :=
  s.row.legacy.bind fun name => (Variable.filled values name).bind (ofOlderVariable s)

end Value

/-! ## Its values are of the setting's kind -/

theorem Setting.kind_of_olderCountsMillis {s : Setting} (millis : s.olderCountsMillis = true) :
    s.kind = .duration := by
  cases s <;> first | rfl | exact absurd millis (by decide)

namespace Value

theorem isOf_of_ofVariable {s : Setting} {raw : String} {v : Value}
    (found : ofVariable s raw = some v) : v.IsOf s.kind := by
  unfold ofVariable at found
  cases kind : s.kind with
  | text | optionalText | texts =>
      simp only [kind] at found
      cases found
      rfl
  | int | bool | float | duration | tokens =>
      simp only [kind] at found
      obtain ⟨given, _, rfl⟩ := Option.map_eq_some_iff.mp found
      rfl
  | ints =>
      simp only [kind] at found
      split at found
      · obtain ⟨list, _, rfl⟩ := Option.map_eq_some_iff.mp found
        rfl
      · cases found
        rfl
  | table | mappings | libraryRoots =>
      simp only [kind] at found
      contradiction

theorem isOf_of_ofOlderVariable {s : Setting} {raw : String} {v : Value}
    (found : ofOlderVariable s raw = some v) : v.IsOf s.kind := by
  unfold ofOlderVariable at found
  split at found
  next millis =>
    obtain ⟨n, _, rfl⟩ := Option.map_eq_some_iff.mp found
    rw [Setting.kind_of_olderCountsMillis millis]
    rfl
  next => exact isOf_of_ofVariable found

theorem isOf_of_fromVariable {s : Setting} {v : Value} (found : fromVariable values s = some v) :
    v.IsOf s.kind := by
  obtain ⟨name, _, given⟩ := Option.bind_eq_some_iff.mp found
  obtain ⟨raw, _, read⟩ := Option.bind_eq_some_iff.mp given
  exact isOf_of_ofVariable read

theorem isOf_of_fromOlderVariable {s : Setting} {v : Value}
    (found : fromOlderVariable values s = some v) : v.IsOf s.kind := by
  obtain ⟨name, _, given⟩ := Option.bind_eq_some_iff.mp found
  obtain ⟨raw, _, read⟩ := Option.bind_eq_some_iff.mp given
  exact isOf_of_ofOlderVariable read

end Value

/-! ## The readers -/

namespace Variable

@[simp] theorem yields_nonblank {name : String} {v : Option String} :
    Yields values (nonblank name) v ↔ filled values name = v := by
  simp [nonblank, filled]

@[simp] theorem yields_parsed {α : Type} {name : String} {parse : String → Option α}
    {warning : String → Warning} {v : Option α} :
    Yields values (parsed name parse warning) v ↔ (filled values name).bind parse = v := by
  simp only [parsed, yields_bind, yields_nonblank, exists_eq_left']
  cases filled values name with
  | none => simp
  | some raw => cases shape : parse raw <;> simp [shape]

@[simp] theorem yields_int {name : String} {v : Option Int} :
    Yields values (int name) v ↔ (filled values name).bind parseInt = v :=
  yields_parsed

@[simp] theorem yields_bool {name : String} {v : Option Bool} :
    Yields values (bool name) v ↔ (filled values name).bind parseBool = v :=
  yields_parsed

@[simp] theorem yields_float {name : String} {v : Option Binary64} :
    Yields values (float name) v ↔ (filled values name).bind parseFloat = v :=
  yields_parsed

@[simp] theorem yields_duration {name : String} {v : Option Duration} :
    Yields values (duration name) v ↔ (filled values name).bind parseDuration = v :=
  yields_parsed

@[simp] theorem yields_tunerSlots {name : String} {v : Option (List Int)} :
    Yields values (tunerSlots name) v ↔
      (filled values name).bind (fun raw => (TunerSlot.readAll raw).toOption) = v :=
  yields_parsed

@[simp] theorem yields_texts {name : String} {v : Option (List String)} :
    Yields values (texts name) v ↔ (filled values name).map commaList = v := by
  simp [texts]

theorem yields_keepInts {name : String} {list : List (List Char)} {v : List Int} :
    Yields values (keepInts name list) v ↔ list.filterMap readInt64 = v := by
  induction list generalizing v with
  | nil => simp [keepInts]
  | cons segment rest ih =>
      cases shape : readInt64 segment <;> simp [keepInts, shape, ih]

@[simp] theorem yields_ints {name : String} {v : Option (List Int)} :
    Yields values (ints name) v ↔
      (filled values name).map (fun raw => (segments ',' raw.toList).filterMap readInt64) = v := by
  simp only [ints, yields_bind, yields_nonblank, exists_eq_left']
  cases filled values name with
  | none => simp
  | some raw => simp [yields_keepInts]

/-- A list of tokens that is malformed ends the run. -/
@[simp] theorem yields_tokens {name : String} {v : Option (List ScopedToken)} :
    Yields values (tokens name) v ↔
      (filled values name = none ∧ v = none) ∨
        ∃ raw list, filled values name = some raw ∧ ScopedToken.readAll raw = .ok list ∧
          v = some list := by
  simp only [tokens, yields_bind, yields_nonblank, exists_eq_left']
  cases filled values name with
  | none => simp [eq_comm]
  | some raw => cases shape : ScopedToken.readAll raw <;> simp [shape, eq_comm]

/-- Only a positive number of milliseconds counts. -/
@[simp] theorem yields_millis {name : String} {v : Option Duration} :
    Yields values (millis name) v ↔
      (((filled values name).bind parseInt).filter (0 < ·)).map
        (fun n => Duration.ofMillis n.toNat) = v := by
  simp [millis, yields_int]

end Variable

namespace VariableLayer

open Variable

/-- A variable that holds no tokens is always read, and gives what it supplies. -/
theorem yields_read {s : Setting} (noTokens : s.kind ≠ .tokens) {name : String}
    {v : Option Value} :
    Yields values (read s name) v ↔ (filled values name).bind (Value.ofVariable s) = v := by
  unfold read Value.ofVariable
  cases text : filled values name with
  | none =>
      cases shape : s.kind <;> simp_all
      split <;> simp [text]
  | some raw =>
      cases shape : s.kind <;> simp_all
      split <;> simp [text]

theorem eq_of_yields_read {s : Setting} {name : String} {v : Option Value}
    (run : Yields values (read s name) v) : (filled values name).bind (Value.ofVariable s) = v := by
  by_cases tokens : s.kind = .tokens
  · simp only [read, tokens, yields_bind, yields_tokens, yields_pure] at run
    obtain ⟨list, found, rfl⟩ := run
    rcases found with ⟨text, rfl⟩ | ⟨raw, list, text, read, rfl⟩
    · rw [text]
      rfl
    · simp [text, Value.ofVariable, tokens, read, Except.toOption]
  · exact (yields_read tokens).mp run

theorem yields_readOlder {s : Setting} (noTokens : s.kind ≠ .tokens) {name : String}
    {v : Option Value} :
    Yields values (readOlder s name) v ↔
      (filled values name).bind (Value.ofOlderVariable s) = v := by
  unfold readOlder Value.ofOlderVariable
  split
  · simp only [yields_bind, yields_millis, yields_pure, exists_eq_left']
    cases filled values name <;> simp [Value.ofMillis, Function.comp_def]
  · exact yields_read noTokens

theorem eq_of_yields_readOlder {s : Setting} {name : String} {v : Option Value}
    (run : Yields values (readOlder s name) v) :
    (filled values name).bind (Value.ofOlderVariable s) = v := by
  by_cases millis : s.olderCountsMillis = true
  · have noTokens : s.kind ≠ .tokens := by
      cases s <;> simp_all [Setting.olderCountsMillis]
    exact (yields_readOlder noTokens).mp run
  · have same : Value.ofOlderVariable s = Value.ofVariable s := by
      funext raw
      simp [Value.ofOlderVariable, millis]
    rw [readOlder, if_neg millis] at run
    rw [same]
    exact eq_of_yields_read run

end VariableLayer

end LayeredConfig
