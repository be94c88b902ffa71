import LayeredConfig.Proofs.Success
import LayeredConfig.Registry.Basic
import Mathlib.Data.List.Nodup
import Mathlib.Data.List.Pairwise

/-!
# Entries that can be told apart

A registry accepts entries exactly if no setting, no key and no variable occurs
in them twice.  Each entry is then the only one of its setting, of its key and of
its variables, so a look-up finds an entry exactly if it is that one.

Main statements: `Registry.check_eq_ok_iff`, `Registry.lookup_of_ofEntries`.
-/

namespace LayeredConfig

open Success

namespace Entry

/-- The entry is the only one of some entries with a property. -/
structure IsOnly (entries : List Entry) (property : Entry → Prop) (e : Entry) : Prop where
  member : e ∈ entries
  has : property e
  alone : ∀ other ∈ entries, property other → other = e

/-- The entry knows a variable, as its own or as the older one. -/
def Knows (e : Entry) (name : String) : Prop := e.primary = some name ∨ e.legacy = some name

instance (e : Entry) (name : String) : Decidable (e.Knows name) :=
  inferInstanceAs (Decidable (e.primary = some name ∨ e.legacy = some name))

instance (entries : List Entry) (property : Entry → Prop) [DecidablePred property] (e : Entry) :
    Decidable (IsOnly entries property e) :=
  decidable_of_iff (e ∈ entries ∧ property e ∧ ∀ other ∈ entries, property other → other = e)
    ⟨fun ⟨member, has, alone⟩ => ⟨member, has, alone⟩,
      fun ⟨member, has, alone⟩ => ⟨member, has, alone⟩⟩

theorem mem_variableNames {e : Entry} {name : String} : name ∈ e.variableNames ↔ e.Knows name := by
  rw [variableNames, List.mem_append, Option.mem_toList, Option.mem_toList]
  exact Iff.rfl

end Entry

def Text.code (text : String) : Nat :=
  text.toByteArray.data.toList.foldl (fun number byte => 256 * number + byte.toNat) 0

namespace Registry

/-- No setting, no key and no variable occurs twice, be it in two entries or in one. -/
structure Distinct (entries : List Entry) : Prop where
  settings : (entries.map Entry.setting).Nodup
  paths : (entries.flatMap fun e => e.path.toList).Nodup
  names : (entries.flatMap Entry.variableNames).Nodup

instance (entries : List Entry) : Decidable (Distinct entries) :=
  decidable_of_iff ((entries.map Entry.setting).Nodup ∧
      (entries.flatMap fun e => e.path.toList).Nodup ∧
      (entries.flatMap Entry.variableNames).Nodup)
    ⟨fun ⟨settings, paths, names⟩ => ⟨settings, paths, names⟩,
      fun ⟨settings, paths, names⟩ => ⟨settings, paths, names⟩⟩

theorem distinct_nil : Distinct [] := ⟨List.nodup_nil, List.nodup_nil, List.nodup_nil⟩

variable {entries earlier rest : List Entry} {e : Entry} {r : Registry}

theorem Distinct.front (distinct : Distinct (earlier ++ rest)) : Distinct earlier := by
  obtain ⟨settings, paths, names⟩ := distinct
  rw [List.map_append] at settings
  rw [List.flatMap_append] at paths names
  exact ⟨settings.of_append_left, paths.of_append_left, names.of_append_left⟩

/-! ## What is accepted -/

theorem firstTaken_eq_none_iff {taken names : List String} (distinct : taken.Nodup) :
    firstTaken taken names = none ↔ (taken ++ names).Nodup := by
  induction names generalizing taken with
  | nil =>
      rw [List.append_nil]
      exact iff_of_true rfl distinct
  | cons name rest ih =>
      rw [firstTaken, List.nodup_middle]
      by_cases known : name ∈ taken
      · rw [if_pos (List.contains_iff_mem.mpr known)]
        refine iff_of_false nofun fun new => ?_
        exact (List.nodup_cons.mp new).1 (List.mem_append_left rest known)
      · rw [if_neg fun found => known (List.contains_iff_mem.mp found)]
        exact ih (List.nodup_cons.mpr ⟨known, distinct⟩)

theorem any_setting_iff {s : Setting} :
    (earlier.any fun other => other.setting = s) = true ↔ s ∈ earlier.map Entry.setting := by
  rw [List.any_eq_true, List.mem_map]
  simp only [decide_eq_true_eq]

/-- An entry is accepted exactly if it can be told apart from those in front of it. -/
theorem fault?_eq_none_iff (distinct : Distinct earlier) :
    fault? earlier e = none ↔ Distinct (earlier ++ [e]) := by
  have settings : ¬(earlier.any fun other => other.setting = e.setting) = true ↔
      ((earlier ++ [e]).map Entry.setting).Nodup := by
    rw [any_setting_iff, List.map_append, List.map_singleton, List.nodup_middle, List.append_nil,
      List.nodup_cons, and_iff_left distinct.settings]
  have paths : firstTaken (earlier.flatMap fun other => other.path.toList) e.path.toList = none ↔
      ((earlier ++ [e]).flatMap fun other => other.path.toList).Nodup := by
    rw [firstTaken_eq_none_iff distinct.paths, List.flatMap_append, List.flatMap_singleton]
  have names : firstTaken (earlier.flatMap Entry.variableNames) e.variableNames = none ↔
      ((earlier ++ [e]).flatMap Entry.variableNames).Nodup := by
    rw [firstTaken_eq_none_iff distinct.names, List.flatMap_append, List.flatMap_singleton]
  unfold fault?
  by_cases known : (earlier.any fun other => other.setting = e.setting) = true
  · rw [if_pos known]
    exact iff_of_false nofun fun new => settings.mpr new.settings known
  · rw [if_neg known]
    split
    next path taken =>
      refine iff_of_false nofun fun new => ?_
      cases taken.symm.trans (paths.mpr new.paths)
    next free =>
      rw [Option.map_eq_none_iff, names]
      exact ⟨fun new => ⟨settings.mp known, paths.mp free, new⟩, Distinct.names⟩

/-- Entries are accepted behind others exactly if all of them can be told apart. -/
theorem check_eq_ok_iff (distinct : Distinct earlier) :
    check earlier rest = .ok () ↔ Distinct (earlier ++ rest) := by
  induction rest generalizing earlier with
  | nil =>
      rw [List.append_nil]
      exact iff_of_true rfl distinct
  | cons e rest ih =>
      rw [check]
      split
      next fault found =>
        refine iff_of_false nofun fun whole => ?_
        rw [List.append_cons] at whole
        cases found.symm.trans ((fault?_eq_none_iff distinct).mpr whole.front)
      next clean =>
        rw [List.append_cons earlier e rest]
        exact ih ((fault?_eq_none_iff distinct).mp clean)

theorem ofEntries_eq_ok_iff : ofEntries entries = .ok r ↔ Distinct entries ∧ r = ⟨entries⟩ := by
  rw [ofEntries, bind_eq_ok]
  constructor
  · rintro ⟨_, accepted, same⟩
    exact ⟨(check_eq_ok_iff distinct_nil).mp accepted, (pure_eq_ok.mp same).symm⟩
  · rintro ⟨distinct, rfl⟩
    exact ⟨(), (check_eq_ok_iff distinct_nil).mpr distinct, rfl⟩

/-! ## What is found -/

section Keys

variable {β : Type} {keys : Entry → List β} {key : β}

/-- If no key occurs twice, entries with a common key are one entry. -/
theorem eq_of_common_key (apart : (entries.flatMap keys).Nodup) {a b : Entry} (first : a ∈ entries)
    (second : b ∈ entries) (inFirst : key ∈ keys a) (inSecond : key ∈ keys b) : a = b := by
  by_contra differ
  have symmetric : Std.Symm (Function.onFun List.Disjoint keys) :=
    ⟨fun _ _ disjoint => List.disjoint_symm disjoint⟩
  exact (List.nodup_flatMap.mp apart).2.forall first second differ inFirst inSecond

/-- If no key occurs twice, a look-up by a key finds the only entry with that key. -/
theorem find?_eq_some_iff_isOnly (apart : (entries.flatMap keys).Nodup) {test : Entry → Bool}
    {property : Entry → Prop} (tests : ∀ x, test x = true ↔ property x)
    (means : ∀ x, key ∈ keys x ↔ property x) :
    entries.find? test = some e ↔ Entry.IsOnly entries property e := by
  have only : ∀ a ∈ entries, ∀ b ∈ entries, property a → property b → a = b :=
    fun a first b second hasFirst hasSecond =>
      eq_of_common_key apart first second ((means a).mpr hasFirst) ((means b).mpr hasSecond)
  constructor
  · intro found
    have member := List.mem_of_find?_eq_some found
    have has := (tests e).mp (List.find?_some found)
    exact ⟨member, has, fun other inEntries otherHas => only other inEntries e member otherHas has⟩
  · rintro ⟨member, has, _⟩
    obtain ⟨other, found⟩ := Option.isSome_iff_exists.mp
      (List.find?_isSome.mpr ⟨e, member, (tests e).mpr has⟩)
    have otherHas := (tests other).mp (List.find?_some found)
    rw [found, only other (List.mem_of_find?_eq_some found) e member otherHas has]

end Keys

theorem bySetting_eq_some_iff (distinct : Distinct r.entries) {s : Setting} :
    r.bySetting s = some e ↔ Entry.IsOnly r.entries (fun x => x.setting = s) e := by
  have apart : (r.entries.flatMap fun x => [x.setting]).Nodup := by
    rw [← List.map_eq_flatMap]
    exact distinct.settings
  have means : ∀ x : Entry, s ∈ [x.setting] ↔ x.setting = s :=
    fun _ => List.mem_singleton.trans eq_comm
  exact find?_eq_some_iff_isOnly apart (fun _ => decide_eq_true_iff) means

theorem byPath_eq_some_iff (distinct : Distinct r.entries) {path : String} :
    r.byPath path = some e ↔ Entry.IsOnly r.entries (fun x => x.path = some path) e :=
  find?_eq_some_iff_isOnly distinct.paths (fun _ => decide_eq_true_iff) fun _ => Option.mem_toList

theorem byVariable_eq_some_iff (distinct : Distinct r.entries) {name : String} :
    r.byVariable name = some e ↔ Entry.IsOnly r.entries (fun x => x.Knows name) e :=
  find?_eq_some_iff_isOnly distinct.names
    (fun _ => List.contains_iff_mem.trans Entry.mem_variableNames) fun _ => Entry.mem_variableNames

theorem mem_variableNames_iff {name : String} :
    name ∈ r.variableNames ↔ ∃ e ∈ r.entries, e.Knows name := by
  rw [variableNames, List.mem_flatMap]
  simp only [Entry.mem_variableNames]

theorem bySetting_isSome_iff {s : Setting} :
    (r.bySetting s).isSome = true ↔ ∃ e ∈ r.entries, e.setting = s := by
  rw [bySetting, List.find?_isSome]
  simp only [decide_eq_true_eq]

/-- The coverage is complete exactly if every leaf of a configuration has an entry; which
configuration makes no difference. -/
theorem checkCoverage_eq_ok_iff (c : Config) :
    r.checkCoverage = .ok () ↔ ∀ shown ∈ c.leaves, ∃ e ∈ r.entries, e.setting = shown.1 := by
  have leaves : (∀ shown ∈ c.leaves, ∃ e ∈ r.entries, e.setting = shown.1) ↔
      ∀ s ∈ Setting.all, (r.bySetting s).isSome = true := by
    simp only [Config.leaves, List.forall_mem_map, bySetting_isSome_iff]
  rw [leaves, checkCoverage]
  split
  next s found =>
    refine iff_of_false nofun fun covered => ?_
    have missing := List.find?_some found
    rw [Option.isNone_iff_eq_none] at missing
    have present := covered s (List.mem_of_find?_eq_some found)
    rw [missing] at present
    cases present
  next nothing =>
    refine iff_of_true rfl fun s member => ?_
    have present := List.find?_eq_none.mp nothing s member
    rwa [Bool.not_eq_true, Option.isNone_eq_false_iff] at present

/-- Entries are accepted exactly if no setting, no key and no variable occurs twice.  A look-up in
an accepted registry finds the only entry with what was asked for, its listing of the variables
names each of them once, and its coverage is complete exactly if every setting has an entry. -/
theorem lookup_of_ofEntries (entries : List Entry) :
    ((∃ r, ofEntries entries = .ok r) ↔ Distinct entries) ∧
      ∀ r, ofEntries entries = .ok r →
        (∀ s e, r.bySetting s = some e ↔ Entry.IsOnly entries (fun x => x.setting = s) e) ∧
        (∀ path e, r.byPath path = some e ↔ Entry.IsOnly entries (fun x => x.path = some path) e) ∧
        (∀ name e, r.byVariable name = some e ↔ Entry.IsOnly entries (fun x => x.Knows name) e) ∧
        (r.variableNames.Nodup ∧
          ∀ name, name ∈ r.variableNames ↔ ∃ e ∈ entries, e.Knows name) ∧
        (∀ c : Config, r.checkCoverage = .ok () ↔
          ∀ shown ∈ c.leaves, ∃ e ∈ entries, e.setting = shown.1) ∧
        (r.checkCoverage = .ok () ↔ ∀ s : Setting, ∃ e ∈ entries, e.setting = s) := by
  constructor
  · constructor
    · rintro ⟨r, accepted⟩
      exact (ofEntries_eq_ok_iff.mp accepted).1
    · intro distinct
      exact ⟨⟨entries⟩, ofEntries_eq_ok_iff.mpr ⟨distinct, rfl⟩⟩
  · intro r accepted
    obtain ⟨distinct, rfl⟩ := ofEntries_eq_ok_iff.mp accepted
    refine ⟨fun _ _ => bySetting_eq_some_iff distinct, fun _ _ => byPath_eq_some_iff distinct,
      fun _ _ => byVariable_eq_some_iff distinct, ⟨distinct.names, fun _ => mem_variableNames_iff⟩,
      checkCoverage_eq_ok_iff, ?_⟩
    rw [checkCoverage_eq_ok_iff .empty, Config.leaves, List.forall_mem_map]
    exact ⟨fun covered s => covered s s.mem_all, fun covered s _ => covered s⟩

/-- The older variable of one entry finds that entry, and may not be the variable of another. -/
theorem lookup_of_ofEntries_legacy :
    let address : Entry := { setting := .receiverBaseUrl, path := some "enigma2.baseUrl",
                             primary := some "XG2G_E2_HOST", legacy := some "XG2G_OWI_BASE" }
    let user : Entry := { setting := .receiverUsername, primary := some "XG2G_E2_USER" }
    (∃ r, ofEntries [address, user] = .ok r ∧ r.byPath "enigma2.baseUrl" = some address ∧
        r.byVariable "XG2G_OWI_BASE" = some address ∧ r.checkCoverage ≠ .ok ()) ∧
      ¬∃ r, ofEntries [address, { user with legacy := some "XG2G_E2_HOST" }] = .ok r := by
  intro address user
  constructor
  · obtain ⟨exact, lookup⟩ := lookup_of_ofEntries [address, user]
    obtain ⟨r, accepted⟩ := exact.mpr (by decide)
    obtain ⟨_, byPath, byVariable, _, _, covers⟩ := lookup r accepted
    refine ⟨r, accepted, (byPath _ _).mpr (by decide), (byVariable _ _).mpr (by decide),
      fun complete => ?_⟩
    exact absurd (covers.mp complete .version) (by decide)
  · rw [(lookup_of_ofEntries _).1]
    decide

/-- The entries of the built-in registry can be told apart. -/
theorem distinct_builtIn : Distinct builtIn.entries where
  settings := by decide
  -- texts with different codes differ, and codes are quick to compare
  paths := .of_map Text.code (by decide +kernel)
  names := .of_map Text.code (by decide +kernel)

end Registry

end LayeredConfig
