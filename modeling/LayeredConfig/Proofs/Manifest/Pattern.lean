import LayeredConfig.Proofs.Manifest.Enforcement

/-!
# Patterns of file keys

A star at the end of a file key stands for a block: the dots in front of the star
do not count, and a key is in the block if it is the block or goes on with a dot
behind its name.  Keys that merely start with the text in front of the star are
another set.  Both sets are compared here.

Main statements: `inUse_star_iff`, `pattern_in_use`.
-/

namespace LayeredConfig.Manifest

open Text Deprecation

variable {values : String → Option String} {listing : List String} {p : Presence} {start : String}

/-- Some key of the file starts with a text. -/
def HoldsStart (p : Presence) (start : String) : Prop :=
  ∃ path ∈ p.paths, start.toList <+: path.toList

/-- Some key of the file is a block or stands inside it. -/
def HoldsBlock (p : Presence) (block : String) : Prop := ∃ path ∈ p.paths, InBlock block path

/-- The text in front of the star ends in a dot. -/
def EndsInDot (start : String) : Prop := start.toList.getLast? = some '.'

instance (p : Presence) (start : String) : Decidable (HoldsStart p start) :=
  inferInstanceAs (Decidable (∃ path ∈ p.paths, _))

instance (p : Presence) (block : String) : Decidable (HoldsBlock p block) :=
  inferInstanceAs (Decidable (∃ path ∈ p.paths, _))

instance (start : String) : Decidable (EndsInDot start) := inferInstanceAs (Decidable (_ = _))

/-! ## The block in front of a star -/

theorem isVariable_star (start : String) : isVariable (start ++ "*") = isVariable start := by
  have noStar : "XG2G_".toList ≠ start.toList ++ ['*'] := by
    intro same
    have last := congrArg List.getLast? same
    rw [List.getLast?_concat] at last
    exact absurd last (by decide)
  have shape : (start ++ "*").toList = start.toList ++ ['*'] := by simp
  rw [Bool.eq_iff_iff, isVariable, isVariable, startsWith_eq_true_iff, startsWith_eq_true_iff,
    shape, List.prefix_concat_iff]
  exact or_iff_right noStar

/-- A pattern of file keys is in use iff the file holds its block. -/
theorem inUse_star_iff (inFile : isVariable start = false) :
    InUse values listing (some p) (start ++ "*") ↔ HoldsBlock p (blockOf start) := by
  have pattern : start? (start ++ "*") = some start := start?_eq_some_iff.mpr rfl
  rw [inUse_iff, users, pattern, isVariable_star, inFile]
  simp [HoldsBlock, List.filter_eq_nil_iff]

theorem blockOf_of_not_endsInDot (noDot : ¬EndsInDot start) : blockOf start = start := by
  have kept : start.toList.reverse.dropWhile (· = '.') = start.toList.reverse := by
    rw [EndsInDot, ← List.head?_reverse] at noDot
    cases shape : start.toList.reverse with
    | nil => rfl
    | cons c rest =>
        rw [shape] at noDot
        exact List.dropWhile_cons_of_neg (by simpa using noDot)
  rw [blockOf, kept, List.reverse_reverse, String.ofList_toList]

theorem blockOf_of_endsInDot (dot : EndsInDot start) :
    (blockOf start).toList ++ ['.'] <+: start.toList := by
  obtain ⟨k, split⟩ := exists_trailing '.' start.toList
  have block : (blockOf start).toList = (start.toList.reverse.dropWhile (· = '.')).reverse :=
    String.toList_ofList
  rw [← block] at split
  cases k with
  | zero =>
      have outside := List.head?_dropWhile_not (· = '.') start.toList.reverse
      rw [List.replicate_zero, List.append_nil] at split
      rw [EndsInDot, ← split, block, List.getLast?_reverse] at dot
      rw [dot] at outside
      simp at outside
  | succ k => exact ⟨List.replicate k '.', by rw [← split, List.append_assoc]; rfl⟩

/-! ## Both rules -/

/-- Without a dot in front of the star, the block is a part of what starts with the text. -/
theorem holdsStart_of_holdsBlock (noDot : ¬EndsInDot start) (holds : HoldsBlock p (blockOf start)) :
    HoldsStart p start := by
  obtain ⟨path, member, same | inside⟩ := holds
  · rw [blockOf_of_not_endsInDot noDot] at same
    exact ⟨path, member, same ▸ List.prefix_refl _⟩
  · rw [blockOf_of_not_endsInDot noDot] at inside
    exact ⟨path, member, (List.prefix_append _ _).trans inside⟩

/-- With a dot in front of the star, what starts with the text is a part of the block. -/
theorem holdsBlock_of_holdsStart (dot : EndsInDot start) (holds : HoldsStart p start) :
    HoldsBlock p (blockOf start) := by
  obtain ⟨path, member, begins⟩ := holds
  exact ⟨path, member, Or.inr ((blockOf_of_endsInDot dot).trans begins)⟩

/-- When a pattern of file keys is in use.  It is iff the file holds its block, and in the phase
`fail` it then stops every check.  The block and the keys that start with the text in front of the
star agree on a file iff, with a dot in front of the star, the file does not hold a bare block only,
and without one, it does not hold keys only whose names go on behind the text. -/
theorem pattern_in_use {start : String} (inFile : isVariable start = false)
    (values : String → Option String) (listing : List String) (p : Presence) :
    (InUse values listing (some p) (start ++ "*") ↔ HoldsBlock p (blockOf start)) ∧
    (∀ (m : Manifest) (e : Deprecation), e ∈ m.deprecations → e.key = start ++ "*" →
      e.phase = .fail →
        (Stops values listing (some p) e ↔ HoldsBlock p (blockOf start)) ∧
        (HoldsBlock p (blockOf start) →
          ∃ f, ((m.check listing (some p)).run values).result = .error f)) ∧
    ((InUse values listing (some p) (start ++ "*") ↔ HoldsStart p start) ↔
      if EndsInDot start then HoldsBlock p (blockOf start) → HoldsStart p start
      else HoldsStart p start →
        ∃ path ∈ p.paths, path = start ∨ start.toList ++ ['.'] <+: path.toList) := by
  have used : InUse values listing (some p) (start ++ "*") ↔ HoldsBlock p (blockOf start) :=
    inUse_star_iff inFile
  refine ⟨used, fun m e member key phase => ?_, ?_⟩
  · have stops : Stops values listing (some p) e ↔ HoldsBlock p (blockOf start) := by
      rw [Stops, key, used]
      exact and_iff_right phase
    exact ⟨stops, fun holds => (enforces_check m).fails_iff.mpr ⟨e, member, stops.mpr holds⟩⟩
  · rw [used]
    by_cases dot : EndsInDot start
    · rw [if_pos dot]
      exact ⟨fun same => same.mp, fun covered => ⟨covered, holdsBlock_of_holdsStart dot⟩⟩
    · rw [if_neg dot]
      have block : HoldsBlock p (blockOf start) ↔
          ∃ path ∈ p.paths, path = start ∨ start.toList ++ ['.'] <+: path.toList := by
        rw [blockOf_of_not_endsInDot dot]
        rfl
      rw [← block]
      exact ⟨fun same => same.mpr, fun covered => ⟨holdsStart_of_holdsBlock dot, covered⟩⟩

/-- With a dot in front of the star, a key inside the block stops a check. -/
theorem pattern_in_use_inside :
    let p : Presence := { paths := ["epg", "epg.source"] }
    let e : Deprecation := { key := "epg.*", phase := .fail }
    isVariable "epg." = false ∧ HoldsBlock p (blockOf "epg.") ∧
      (∃ f, ((check { version := 1, deprecations := [e] } [] (some p)).run fun _ => none).result =
        .error f) ∧
      (InUse (fun _ => none) [] (some p) "epg.*" ↔ HoldsStart p "epg.") := by
  intro p e
  have inFile : isVariable "epg." = false := by decide
  have holds : HoldsBlock p (blockOf "epg.") := by decide
  obtain ⟨_, stopping, agreeing⟩ := pattern_in_use inFile (fun _ => none) [] p
  have agree : if EndsInDot "epg." then HoldsBlock p (blockOf "epg.") → HoldsStart p "epg."
      else HoldsStart p "epg." →
        ∃ path ∈ p.paths, path = "epg." ∨ "epg.".toList ++ ['.'] <+: path.toList := by decide
  exact ⟨inFile, holds, (stopping _ e List.mem_cons_self rfl rfl).2 holds, agreeing.mpr agree⟩

/-- Without a dot in front of the star, a key that starts with the text is not found. -/
theorem pattern_overlooked : ∃ p, Presence.ofText "epg:\n  source: bouquet\n" = .ok p ∧
    HoldsStart p "epg.so" ∧ ¬InUse (fun _ => none) [] (some p) "epg.so*" ∧
    ((check { version := 1, deprecations := [{ key := "epg.so*", phase := .fail }] } []
      (some p)).run fun _ => none).result = .ok () := by
  obtain ⟨p, scanned, facts⟩ := Success.exists_ok_of_any
    (Presence.ofText "epg:\n  source: bouquet\n")
    (fun p => p = { paths := ["epg", "epg.source"] }) (by decide +kernel)
  obtain rfl := of_decide_eq_true facts
  exact ⟨_, scanned, by decide, by decide, by decide +kernel⟩

end LayeredConfig.Manifest
