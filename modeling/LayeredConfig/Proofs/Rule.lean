import LayeredConfig.Proofs.Net.Block
import LayeredConfig.Rule

/-!
# What rules say

Each kind of rule has its own complaints, and a rule that holds has none.  The
complaints of a list of rules make one failure, which keeps all of them in order
and is about a key only where there is a single complaint.

Main statements: `Rule.violation?_eq_some_iff`, `Rule.reports_of_refuse`.
-/

namespace LayeredConfig

open Text Net

namespace Rule

/-- The URL has a host with a name. -/
def HasHost (url : Url) : Prop := ∃ host, url.host = some host ∧ host ≠ ""

/-- What a rule says of a value that breaks it. -/
inductive Complaint : Rule → String → Prop
  | range {field : String} {value low high : Int} : value < low ∨ high < value →
      Complaint (.range field value low high) ("value must be between " ++ toString low ++
        " and " ++ toString high ++ ", got " ++ toString value)
  | port {field : String} {value : Int} : value < 1 ∨ 65535 < value →
      Complaint (.port field value) ("port must be between 1 and 65535, got " ++ toString value)
  | positive {field : String} {value : Int} : value ≤ 0 →
      Complaint (.positive field value) ("value must be positive, got " ++ toString value)
  | oneOf {field value : String} {allowed : List String} : value ∉ allowed →
      Complaint (.oneOf field value allowed)
        ("value must be one of " ++ quotedList allowed ++ ", got " ++ quoted value)
  | blankService {field value : String} {schemes : List String} :
      isBlankText value.toList = true →
        Complaint (.service field value schemes) "URL cannot be empty"
  | badService {field value : String} {schemes : List String} {fault : Url.Fault} :
      isBlankText value.toList = false →
        Url.read (String.ofList (trim value.toList)) = .error fault →
        Complaint (.service field value schemes) ("invalid URL: " ++ fault.message)
  | hostless {field value : String} {schemes : List String} {url : Url} :
      isBlankText value.toList = false → Url.read (String.ofList (trim value.toList)) = .ok url →
        ¬HasHost url → Complaint (.service field value schemes) "URL must have a host"
  | foreignScheme {field value : String} {schemes : List String} {url : Url} :
      isBlankText value.toList = false → Url.read (String.ofList (trim value.toList)) = .ok url →
        HasHost url → url.scheme ∉ schemes →
        Complaint (.service field value schemes) ("unsupported URL scheme " ++ quoted url.scheme ++
          " (allowed: " ++ quotedList schemes ++ ")")
  | block {field value : String} {fault : Block.Fault} :
      Block.TakenFor (trim value.toList) (.error fault) →
        Complaint (.block field value) (quoted value ++ ": " ++ fault.message)
  | demand {field message : String} : Complaint (.demand field message false) message

theorem hasHost_iff {url : Url} : url.host.all String.isEmpty = false ↔ HasHost url := by
  unfold HasHost
  cases url.host with
  | none => simp
  | some host => simp

theorem complaint_of_serviceFault {field value message : String} {schemes : List String}
    (fault : serviceFault value schemes = some message) :
    Complaint (.service field value schemes) message := by
  unfold serviceFault at fault
  split at fault
  next blank =>
    cases fault
    exact .blankService blank
  next filled =>
    rw [Bool.not_eq_true] at filled
    split at fault
    next read =>
      cases fault
      exact .badService filled read
    next url read =>
      split at fault
      next bare =>
        cases fault
        exact .hostless filled read (by rw [← hasHost_iff, bare]; decide)
      next named =>
        rw [Bool.not_eq_true, hasHost_iff] at named
        split at fault
        next => cases fault
        next foreign =>
          cases fault
          exact .foreignScheme filled read named (by simpa using foreign)

theorem complaint_of_fault? {r : Rule} {message : String} (fault : r.fault? = some message) :
    Complaint r message := by
  cases r with
  | range field value low high =>
      simp only [fault?] at fault
      split at fault
      next => cases fault
      next outside =>
        cases fault
        exact .range (by omega)
  | port field value =>
      simp only [fault?] at fault
      split at fault
      next => cases fault
      next outside =>
        cases fault
        exact .port (by omega)
  | positive field value =>
      simp only [fault?] at fault
      split at fault
      next => cases fault
      next outside =>
        cases fault
        exact .positive (by omega)
  | oneOf field value allowed =>
      simp only [fault?] at fault
      split at fault
      next => cases fault
      next strange =>
        cases fault
        exact .oneOf (by simpa using strange)
  | service field value schemes => exact complaint_of_serviceFault fault
  | block field value =>
      simp only [fault?] at fault
      split at fault
      next => cases fault
      next wrong =>
        cases fault
        exact .block (Block.read_eq_iff.mp wrong)
  | demand field message condition =>
      simp only [fault?] at fault
      split at fault
      next => cases fault
      next fails =>
        cases fault
        rw [Bool.not_eq_true] at fails
        exact fails ▸ .demand

theorem fault?_of_complaint {r : Rule} {message : String} (complaint : Complaint r message) :
    r.fault? = some message := by
  cases complaint with
  | range outside => exact if_neg (by omega)
  | port outside => exact if_neg (by omega)
  | positive outside => exact if_neg (by omega)
  | oneOf strange => exact if_neg (by simpa using strange)
  | blankService blank => exact if_pos blank
  | badService filled read =>
      rw [fault?, serviceFault, if_neg (Bool.eq_false_iff.mp filled), read]
  | hostless filled read bare =>
      rw [← hasHost_iff, Bool.not_eq_false] at bare
      rw [fault?, serviceFault, if_neg (Bool.eq_false_iff.mp filled), read]
      exact if_pos bare
  | foreignScheme filled read named foreign =>
      rw [← hasHost_iff] at named
      rw [fault?, serviceFault, if_neg (Bool.eq_false_iff.mp filled), read]
      simp only [if_neg (Bool.eq_false_iff.mp named)]
      exact if_neg (by simpa using foreign)
  | block taken =>
      rw [fault?, Block.read_eq_iff.mpr taken]
  | demand => rfl

/-- The violation of a rule: it names the rule's key and complains of the value. -/
def Breaks (r : Rule) (v : Violation) : Prop := v.field = r.field ∧ Complaint r v.message

theorem violation?_eq_some_iff {r : Rule} {v : Violation} :
    r.violation? = some v ↔ r.Breaks v := by
  rw [violation?, Option.map_eq_some_iff, Breaks]
  constructor
  · rintro ⟨message, fault, rfl⟩
    exact ⟨rfl, complaint_of_fault? fault⟩
  · rintro ⟨same, complaint⟩
    exact ⟨v.message, fault?_of_complaint complaint, same ▸ rfl⟩

/-- A demand is broken where its condition fails. -/
theorem breaks_demand_iff {field message : String} {condition : Bool} {v : Violation} :
    (demand field message condition).Breaks v ↔ condition = false ∧ v = ⟨field, message⟩ := by
  rw [← violation?_eq_some_iff, violation?, fault?, Option.map_eq_some_iff]
  cases condition <;> simp [Rule.field, eq_comm]

/-! ## The failure -/

/-- The failure of a check with some violations: it is one of the rules, says what each of them
says, and is about a key where there is one violation only. -/
structure Reports (vs : List Violation) (f : Failure) : Prop where
  failureClass : f.failureClass = .validation
  message : f.message = "; ".intercalate (vs.map Violation.text)
  field : ∀ key, f.field = some key ↔ ∃ v, vs = [v] ∧ v.field = key

theorem refuse_eq_ok_iff {vs : List Violation} : refuse vs = .ok () ↔ vs = [] := by
  cases vs <;> simp [refuse]

theorem reports_of_refuse {vs : List Violation} {f : Failure} (refused : refuse vs = .error f) :
    Reports vs f := by
  cases vs with
  | nil => cases refused
  | cons first others =>
      cases refused
      refine ⟨rfl, rfl, fun key => ?_⟩
      cases others with
      | nil => simp [Failure.field, Cause.field]
      | cons second rest => simp [Failure.field, Cause.field]

end Rule

end LayeredConfig
