import LayeredConfig.Proofs.Alias
import LayeredConfig.Proofs.Presence

/-!
# Conflicts inside one file

A receiver setting may stand in a file under two keys.  If the two values differ
as they are compared, the check of the keys refuses the file, provided that the
scan saw both keys.  A block that carries a tag of the author's own is read, but
its keys are not seen, and the check passes.

Main statements: `Alias.seen_and_refused`, and the counterexample
`Alias.tagged_block_unchecked`.
-/

namespace LayeredConfig

open Text Reading Success

variable {values : String → Option String} {f : File} {p : Presence} {s : Setting}

namespace Alias

/-- The length of time that a compared text stands for, an empty one having none, or the
text itself. -/
def sameLength (a b : String) : Bool :=
  if a.isEmpty && b.isEmpty then true
  else
    match Duration.read a, Duration.read b with
    | .ok x, .ok y => x == y
    | _, _ => a == b

/-- Are two values of a receiver setting the same, up to blanks, references and the spelling
of durations? -/
def sameValue (values : String → Option String) (s : Setting) (a b : Option Value) : Bool :=
  match s.kind with
  | .text => normalText values (textOf a) == normalText values (textOf b)
  | .duration => sameLength (normalText values (textOf a)) (normalText values (textOf b))
  | _ => a == b

theorem yields_sameInFile {a b : Option Value} {agree : Bool} :
    Yields values (sameInFile s a b) agree ↔ sameValue values s a b = agree := by
  unfold sameInFile sameValue
  cases s.kind with
  | text => exact yields_sameText
  | duration =>
      unfold sameDurationText sameLength
      simp only [yields_bind, yields_normal, exists_eq_left']
      split
      · simp
      · cases Duration.read (normalText values (textOf a)) <;>
          cases Duration.read (normalText values (textOf b)) <;> simp
  | _ => simp

/-- The refusal of two keys that differ. -/
def conflict (s : Setting) : Failure :=
  { cause := .aliasConflict .receiver (FileKey.older s).path (FileKey.own s).path }

/-- A comparison that ends, but after which the check fails, found no agreement. -/
theorem error_of_demand {r : Reading Bool} {older newer : String} {e : Failure}
    (ends : ∃ agree, Yields values r agree)
    (failed : ((r >>= fun agree => demand agree .receiver older newer).run values).result =
      .error e) :
    ¬Yields values r true ∧ e = { cause := .aliasConflict .receiver older newer } := by
  obtain ⟨agree, yielded⟩ := ends
  rw [result_bind yielded] at failed
  cases agree with
  | true => cases failed
  | false =>
      refine ⟨fun agrees => ?_, (Except.error.inj failed).symm⟩
      cases yielded.unique agrees

theorem checkKeysOf_error {e : Failure}
    (failed : ((checkKeysOf f p s).run values).result = .error e) : e = conflict s := by
  unfold checkKeysOf at failed
  split at failed
  · exact (error_of_demand ⟨_, yields_sameInFile.mpr rfl⟩ failed).2
  · cases failed

/-- If the check of the keys fails, it does so at one of the settings. -/
theorem error_of_checkKeys {e : Failure} (failed : ((checkKeys f p).run values).result = .error e) :
    ∃ s ∈ Setting.receiverAliases, ((checkKeysOf f p s).run values).result = .error e := by
  unfold checkKeys at failed
  split at failed
  · exact error_of_forM failed
  · cases failed

/-- A check that sees no key in both blocks passes. -/
theorem yields_checkKeys_of_blind
    (blind : ∀ key, p.hasLegacy key = false ∨ p.hasCanonical key = false) :
    Yields values (checkKeys f p) () := by
  refine yields_checkKeys.mpr fun _ _ s _ => yields_checkKeysOf.mpr fun seen seen' => ?_
  rcases blind s.lastStep with none | none
  · rw [none] at seen
    contradiction
  · rw [none] at seen'
    contradiction

/-- The check of the keys passes, or it refuses one of the settings. -/
theorem cases_checkKeys : Yields values (checkKeys f p) () ∨
    ∃ s ∈ Setting.receiverAliases, ((checkKeys f p).run values).result = .error (conflict s) := by
  cases result : ((checkKeys f p).run values).result with
  | ok _ => exact Or.inl result
  | error e =>
      obtain ⟨s, double, failed⟩ := error_of_checkKeys result
      rw [checkKeysOf_error failed]
      exact Or.inr ⟨s, double, rfl⟩

/-- Keys that are set are seen just if their block has no tag of the author's own, and so two
values that differ are refused just if neither block has one. -/
theorem seen_and_refused {origin text : String} (decoded : File.decode origin text = .ok f)
    (scanned : Presence.ofText text = .ok p) (double : s ∈ Setting.receiverAliases) :
    ((f.value (.older s)).isSome →
      (p.hasLegacy s.lastStep = true ∧ p.hasPath (FileKey.older s).path = true ↔
        Presence.tagsBlock text Presence.legacyBlock = false)) ∧
    ((f.value (.own s)).isSome →
      (p.hasCanonical s.lastStep = true ∧ p.hasPath (FileKey.own s).path = true ↔
        Presence.tagsBlock text Presence.canonicalBlock = false)) ∧
    ((f.value (.older s)).isSome → (f.value (.own s)).isSome → ∀ values,
      sameValue values s (f.value (.older s)) (f.value (.own s)) = false →
      ((∃ s' ∈ Setting.receiverAliases,
          ((checkKeys f p).run values).result = .error (conflict s')) ↔
        Presence.tagsBlock text Presence.legacyBlock = false ∧
          Presence.tagsBlock text Presence.canonicalBlock = false)) := by
  refine ⟨fun older => ?_, fun own => ?_, fun older own values differ => ?_⟩
  · obtain ⟨hidden, shown⟩ := Presence.seen_of_older decoded scanned double older
    refine ⟨fun seen => ?_, shown⟩
    rw [← Bool.not_eq_true]
    intro tagged
    rw [hidden tagged] at seen
    cases seen.1
  · obtain ⟨hidden, shown⟩ := Presence.seen_of_own decoded scanned double own
    refine ⟨fun seen => ?_, shown⟩
    rw [← Bool.not_eq_true]
    intro tagged
    rw [hidden tagged] at seen
    cases seen.1
  · obtain ⟨hiddenOlder, shownOlder⟩ := Presence.seen_of_older decoded scanned double older
    obtain ⟨hiddenOwn, shownOwn⟩ := Presence.seen_of_own decoded scanned double own
    constructor
    · rintro ⟨s', _, refused⟩
      -- a check that sees no key of one of the blocks passes
      have sighted : ¬∀ key, p.hasLegacy key = false ∨ p.hasCanonical key = false := by
        intro blind
        have passes : Yields values (checkKeys f p) () := yields_checkKeys_of_blind blind
        rw [Yields, refused] at passes
        cases passes
      rw [← Bool.not_eq_true, ← Bool.not_eq_true]
      exact ⟨fun tagged => sighted fun key => Or.inl (hiddenOlder tagged key),
        fun tagged => sighted fun key => Or.inr (hiddenOwn tagged key)⟩
    · rintro ⟨plainOlder, plainOwn⟩
      have either : Yields values (checkKeys f p) () ∨ ∃ s' ∈ Setting.receiverAliases,
          ((checkKeys f p).run values).result = .error (conflict s') := cases_checkKeys
      rcases either with passes | refused
      · obtain ⟨olderStands, ownStands⟩ :=
          (File.encloses_of_decode decoded).hasBlock_receiver double
        have agree := yields_checkKeysOf.mp
          (yields_checkKeys.mp passes (olderStands older) (ownStands own) s double)
          (shownOlder plainOlder).1 (shownOwn plainOwn).1
        rw [yields_sameInFile, differ] at agree
        contradiction
      · exact refused

/-- Two addresses in blocks without tags are refused. -/
theorem seen_and_refused_baseUrl :
    let text := "openWebIF:\n  baseUrl: http://a\nenigma2:\n  baseUrl: http://b\n"
    ∃ f p, File.decode "config" text = .ok f ∧ Presence.ofText text = .ok p ∧
      p.hasLegacy "baseUrl" = true ∧ p.hasCanonical "baseUrl" = true ∧
        ∃ s' ∈ Setting.receiverAliases,
          ((checkKeys f p).run fun _ => none).result = .error (conflict s') := by
  intro text
  obtain ⟨f, decoded, facts⟩ := exists_ok_of_any (File.decode "config" text)
    (fun f => (f.value (.older .receiverBaseUrl)).isSome &&
      (f.value (.own .receiverBaseUrl)).isSome &&
      !sameValue (fun _ => none) .receiverBaseUrl (f.value (.older .receiverBaseUrl))
        (f.value (.own .receiverBaseUrl)))
    (by decide +kernel)
  obtain ⟨p, scanned⟩ := exists_ok_of_toBool (Presence.ofText text) (by decide +kernel)
  simp only [Bool.and_eq_true, Bool.not_eq_true'] at facts
  obtain ⟨⟨older, own⟩, differ⟩ := facts
  obtain ⟨seenOlder, seenOwn, refused⟩ :=
    seen_and_refused decoded scanned (s := .receiverBaseUrl) (by decide)
  have plainOlder : Presence.tagsBlock text Presence.legacyBlock = false := by decide +kernel
  have plainOwn : Presence.tagsBlock text Presence.canonicalBlock = false := by decide +kernel
  exact ⟨f, p, decoded, scanned, ((seenOlder older).mpr plainOlder).1,
    ((seenOwn own).mpr plainOwn).1,
    (refused older own _ differ).mpr ⟨plainOlder, plainOwn⟩⟩

/-- With a tag on the older block both addresses are still read, but the older key is not seen,
and the check passes. -/
theorem tagged_block_unchecked :
    let text := "openWebIF: !x\n  baseUrl: http://a\nenigma2:\n  baseUrl: http://b\n"
    ∃ f p, File.decode "config" text = .ok f ∧ Presence.ofText text = .ok p ∧
      f.value (.older .receiverBaseUrl) = some (.text "http://a") ∧
        f.value (.own .receiverBaseUrl) = some (.text "http://b") ∧
          p.hasLegacy "baseUrl" = false ∧ p.hasPath "openWebIF.baseUrl" = false ∧
            Yields (fun _ => none) (checkKeys f p) () := by
  intro text
  obtain ⟨f, decoded, facts⟩ := exists_ok_of_any (File.decode "config" text)
    (fun f => decide (f.value (.older .receiverBaseUrl) = some (.text "http://a")) &&
      decide (f.value (.own .receiverBaseUrl) = some (.text "http://b")))
    (by decide +kernel)
  obtain ⟨p, scanned, unseen⟩ := exists_ok_of_any (Presence.ofText text)
    (fun p => decide (p.legacy = []) && !p.hasPath "openWebIF.baseUrl") (by decide +kernel)
  simp only [Bool.and_eq_true, decide_eq_true_eq, Bool.not_eq_true'] at facts unseen
  have blind : ∀ key, p.hasLegacy key = false := by
    intro key
    rw [Presence.hasLegacy, unseen.1]
    rfl
  exact ⟨f, p, decoded, scanned, facts.1, facts.2, blind _, unseen.2,
    yields_checkKeys_of_blind fun key => Or.inl (blind key)⟩

end Alias

end LayeredConfig
