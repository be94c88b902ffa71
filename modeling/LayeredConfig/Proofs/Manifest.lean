import LayeredConfig.Deprecation
import LayeredConfig.Proofs.HlsRoot
import LayeredConfig.Proofs.Reading
import LayeredConfig.Proofs.Success
import LayeredConfig.Proofs.Variable
import LayeredConfig.Proofs.Yaml.Label

/-!
# Manifests

A manifest names the variables that its check looks up, whatever the check finds.
The marker that a renamed directory holds is no manifest: its first word is no
key of one.  So the clock has no say in the manifest that a load reads.

Main statements: `Manifest.asked_check`, `Manifest.load_clock`.
-/

namespace LayeredConfig

open Reading Success
open Yaml (Tree)

variable {values : String → Option String}

/-! ## What a check looks up -/

namespace Deprecation

/-- The names that the search for a key looks up: a variable that is named in full. -/
def names (key : String) : List String :=
  match start? key, isVariable key with
  | none, true => [key]
  | _, _ => []

theorem exists_of_usage (key : String) (listing : List String) (presence : Option Presence) :
    ∃ found, Yields values (usage key listing presence) found ∧
      ((usage key listing presence).run values).asked = names key := by
  unfold usage names
  cases start? key with
  | some start => cases isVariable key <;> exact ⟨_, yields_pure.mpr rfl, rfl⟩
  | none =>
      cases isVariable key with
      | false => exact ⟨_, yields_pure.mpr rfl, rfl⟩
      | true =>
          have first : Yields values (Variable.nonblank key) _ := Variable.yields_nonblank.mpr rfl
          exact ⟨_, yields_bind.mpr ⟨_, first, yields_pure.mpr rfl⟩, rfl⟩

end Deprecation

namespace Manifest

theorem asked_checkEntry (listing : List String) (presence : Option Presence) (e : Deprecation) :
    ((checkEntry listing presence e).run values).asked = Deprecation.names e.key := by
  obtain ⟨found, used, asked⟩ : ∃ found,
      Yields values (Deprecation.usage e.key listing presence) found ∧ _ :=
    Deprecation.exists_of_usage e.key listing presence
  rw [checkEntry, asked_bind used, asked]
  refine (congrArg _ ?_).trans (List.append_nil _)
  cases found with
  | none => rfl
  | some name => cases e.phase <;> rfl

/-- A manifest that was enforced looked up the variables that it names in full, whatever it
found. -/
theorem asked_check {m : Manifest} {listing : List String} {presence : Option Presence}
    (run : Yields values (m.check listing presence) ()) :
    ((m.check listing presence).run values).asked =
      m.deprecations.flatMap fun e => Deprecation.names e.key := by
  unfold check at run ⊢
  generalize m.deprecations = entries at run ⊢
  induction entries with
  | nil => rfl
  | cons e rest ih =>
      rw [List.forM_eq_forM] at run ih ⊢
      rw [List.forM_cons, yields_bind] at run
      obtain ⟨_, first, later⟩ := run
      rw [List.forM_cons, asked_bind first, asked_checkEntry, ih later, List.flatMap_cons]

end Manifest

/-! ## The marker is no manifest -/

/-- A record refuses a mapping whose first key is none of its fields. -/
theorem Yaml.Tree.record_unknown {σ : Type} {field : String → Option (σ → Tree.Reader σ)}
    {label : List Char} (unknown : field (String.ofList label) = none) {style : Yaml.Style}
    {value : Tree} {entries : List (Tree × Tree)} (start s : σ) :
    Tree.record field start (.mapping none ((.scalar none label style, value) :: entries)) ≠
      .ok s := by
  intro read
  obtain ⟨_, listed, fold⟩ := bind_eq_ok.mp read
  cases listed
  obtain ⟨_, named, found⟩ := bind_eq_ok.mp fold
  cases named
  simp only [unknown] at found
  contradiction

namespace Manifest

/-- A text with a label in front that names no key of a manifest is none. -/
theorem decode_label {label : List Char} (isLabel : Yaml.IsLabel label)
    (unknown : String.ofList label ≠ "version" ∧ String.ofList label ≠ "deprecations")
    {text : String} {tail : List Char} (headed : text.toList = label ++ ':' :: ' ' :: tail)
    (m : Manifest) : decode text ≠ .ok m := by
  intro decoded
  obtain ⟨manifest, read, _⟩ := bind_eq_ok.mp decoded
  obtain ⟨fields, record, _⟩ := bind_eq_ok.mp read
  rcases Yaml.Document.root_of_label isLabel headed with broken | ⟨value, entries, mapping⟩
  · rw [broken] at record
    contradiction
  · rw [mapping] at record
    refine Yaml.Tree.record_unknown ?_ _ _ record
    split
    next same => exact absurd same unknown.1
    next same => exact absurd same unknown.2
    next => rfl

theorem toList_markerText (older now : String) :
    (HlsRoot.markerText older now).toList =
      "Migrated from".toList ++
        ':' :: ' ' :: (older.toList ++ "\nDate: ".toList ++ now.toList ++ "\n".toList) := by
  have front : "Migrated from: ".toList = "Migrated from".toList ++ [':', ' '] := by decide
  unfold HlsRoot.markerText
  rw [String.toList_append, String.toList_append, String.toList_append, String.toList_append]
  rw [front, List.append_assoc, List.append_assoc, List.append_assoc, List.append_assoc]
  rw [List.cons_append, List.cons_append, List.nil_append, List.append_assoc, List.append_assoc]

/-- The marker is no manifest, whatever was renamed and whenever. -/
theorem ofText_markerText (origin older now : String) (m : Manifest) :
    ofText origin (HlsRoot.markerText older now) ≠ .ok m := by
  have isLabel : Yaml.IsLabel "Migrated from".toList :=
    ⟨by decide, by decide, by decide, by decide⟩
  intro read
  unfold ofText at read
  split at read
  next => contradiction
  next external decoded =>
    exact decode_label isLabel ⟨by decide, by decide⟩ (toList_markerText older now) external decoded

/-- The clock has no say in the manifest that is read behind the search for the root. -/
theorem load_clock {now now' : String} {d d' : Disk} (same : HlsRoot.SameDisk now now' d d')
    {path : Option String} {m m' : Manifest} (first : load d path = .ok m)
    (second : load d' path = .ok m') : m' = m := by
  -- Only where the path leads to the marker do the disks differ, and the marker is no manifest.
  have unchanged : load d' path = load d path → m' = m := by
    intro equal
    rw [equal, first] at second
    exact (Except.ok.inj second).symm
  rcases same with rfl | ⟨moved, p, older, notRoot, rfl, rfl⟩
  · exact unchanged rfl
  · cases path with
    | none => exact unchanged rfl
    | some path =>
        rcases moved.readText_put notRoot _ (HlsRoot.markerText older now') path with
          equal | ⟨marker, _⟩
        · refine unchanged ?_
          unfold load
          simp only
          rw [equal]
        · unfold load at first
          simp only [marker] at first
          exact absurd first (ofText_markerText path older now m)

end Manifest

end LayeredConfig
