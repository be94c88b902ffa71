import LayeredConfig.Proofs.Success
import LayeredConfig.Proofs.Text.Cut
import LayeredConfig.Token

/-!
# What the readers of tokens give

Both readers trim tokens and scopes and refuse what is blank after that, a token
that comes twice and a token without scopes.  What they give is therefore a sound
list, and a sound list grants nothing by accident.

Main statements: `ScopedToken.sound_of_readAll`, `ScopedToken.wellFormed_of_readAll`.
-/

namespace LayeredConfig

open Text Success

/-! ## Lists that are well formed -/

namespace ScopedToken

/-- The token is not blank and has a scope, and no scope is blank. -/
structure Grants (t : ScopedToken) : Prop where
  token : isBlankText t.token.toList = false
  granted : t.scopes ≠ []
  scopes : ∀ scope ∈ t.scopes, isBlankText scope.toList = false

/-- No two tokens are the same up to blanks around them, and every token grants something. -/
structure WellFormed (tokens : List ScopedToken) : Prop where
  distinct : (tokens.map fun t => trim t.token.toList).Nodup
  grants : ∀ t ∈ tokens, t.Grants

instance (t : ScopedToken) : Decidable t.Grants :=
  decidable_of_iff (isBlankText t.token.toList = false ∧ t.scopes ≠ [] ∧
      ∀ scope ∈ t.scopes, isBlankText scope.toList = false)
    ⟨fun ⟨token, granted, scopes⟩ => ⟨token, granted, scopes⟩,
      fun ⟨token, granted, scopes⟩ => ⟨token, granted, scopes⟩⟩

instance (tokens : List ScopedToken) : Decidable (WellFormed tokens) :=
  decidable_of_iff ((tokens.map fun t => trim t.token.toList).Nodup ∧ ∀ t ∈ tokens, t.Grants)
    ⟨fun ⟨distinct, grants⟩ => ⟨distinct, grants⟩, fun ⟨distinct, grants⟩ => ⟨distinct, grants⟩⟩

/-! ## Lists that are sound -/

/-- Text without blanks at its ends, and not empty. -/
def IsTrimmed (s : String) : Prop :=
  trim s.toList = s.toList ∧ s ≠ ""

instance (s : String) : Decidable (IsTrimmed s) :=
  inferInstanceAs (Decidable (_ ∧ _))

/-- Token and scopes are trimmed, there is a scope, and no user is set. -/
structure Clean (t : ScopedToken) : Prop where
  token : IsTrimmed t.token
  granted : t.scopes ≠ []
  scopes : ∀ scope ∈ t.scopes, IsTrimmed scope
  user : t.user = none

instance (t : ScopedToken) : Decidable t.Clean :=
  decidable_of_iff (IsTrimmed t.token ∧ t.scopes ≠ [] ∧ (∀ scope ∈ t.scopes, IsTrimmed scope) ∧
      t.user = none)
    ⟨fun ⟨token, granted, scopes, user⟩ => ⟨token, granted, scopes, user⟩,
      fun ⟨token, granted, scopes, user⟩ => ⟨token, granted, scopes, user⟩⟩

/-- There is a token, each is clean, and none comes twice. -/
structure Sound (tokens : List ScopedToken) : Prop where
  present : tokens ≠ []
  distinct : (tokens.map ScopedToken.token).Nodup
  clean : ∀ t ∈ tokens, t.Clean

instance (tokens : List ScopedToken) : Decidable (Sound tokens) :=
  decidable_of_iff (tokens ≠ [] ∧ (tokens.map ScopedToken.token).Nodup ∧ ∀ t ∈ tokens, t.Clean)
    ⟨fun ⟨present, distinct, clean⟩ => ⟨present, distinct, clean⟩,
      fun ⟨present, distinct, clean⟩ => ⟨present, distinct, clean⟩⟩

variable {s : String} {t : ScopedToken} {seen scopes : List String} {tokens : List ScopedToken}

theorem isTrimmed_ofList_iff {cs : List Char} :
    IsTrimmed (String.ofList cs) ↔ trim cs = cs ∧ cs ≠ [] := by
  rw [IsTrimmed, String.toList_ofList, ne_eq, String.ofList_eq_empty_iff]

theorem isTrimmed_iff : IsTrimmed s ↔ trim s.toList = s.toList ∧ s.toList ≠ [] := by
  rw [← isTrimmed_ofList_iff, String.ofList_toList]

theorem IsTrimmed.filled (trimmed : IsTrimmed s) : isBlankText s.toList = false := by
  obtain ⟨same, filled⟩ := isTrimmed_iff.mp trimmed
  rw [← Bool.not_eq_true, ← trim_eq_nil, same]
  exact filled

theorem Clean.grants (clean : t.Clean) : t.Grants :=
  ⟨clean.token.filled, clean.granted, fun scope member => (clean.scopes scope member).filled⟩

/-- What is sound is well formed. -/
theorem Sound.wellFormed (sound : Sound tokens) : WellFormed tokens := by
  refine ⟨?_, fun t member => (sound.clean t member).grants⟩
  have same : (tokens.map fun t => trim t.token.toList) =
      (tokens.map ScopedToken.token).map String.toList := by
    rw [List.map_map]
    exact List.map_congr_left fun t member => (sound.clean t member).token.1
  rw [same]
  have apart : ∀ a b : String, a ≠ b → a.toList ≠ b.toList :=
    fun _ _ differ same => differ (String.toList_inj.mp same)
  exact List.Pairwise.map String.toList apart sound.distinct

/-! ## What the readers keep -/

/-- Clean tokens, each of them new behind those in front. -/
structure Fresh (seen : List String) (tokens : List ScopedToken) : Prop where
  distinct : (tokens.map ScopedToken.token).Nodup
  apart : ∀ t ∈ tokens, t.token ∉ seen
  clean : ∀ t ∈ tokens, t.Clean

theorem fresh_nil (seen : List String) : Fresh seen [] :=
  ⟨List.nodup_nil, nofun, nofun⟩

/-- The first token is clean and new, and the others are fresh behind it. -/
theorem fresh_cons_iff :
    Fresh seen (t :: tokens) ↔ t.Clean ∧ t.token ∉ seen ∧ Fresh (t.token :: seen) tokens := by
  constructor
  · rintro ⟨distinct, apart, clean⟩
    rw [List.map_cons, List.nodup_cons] at distinct
    rw [List.forall_mem_cons] at apart clean
    refine ⟨clean.1, apart.1, distinct.2, fun u member inSeen => ?_, clean.2⟩
    rcases List.mem_cons.mp inSeen with same | inSeen
    · exact distinct.1 (List.mem_map.mpr ⟨u, member, same⟩)
    · exact apart.2 u member inSeen
  · rintro ⟨clean, new, later⟩
    refine ⟨List.nodup_cons.mpr ⟨?_, later.distinct⟩, ?_, ?_⟩
    · intro again
      obtain ⟨u, member, same⟩ := List.mem_map.mp again
      exact later.apart u member (same ▸ List.mem_cons_self)
    · exact List.forall_mem_cons.mpr
        ⟨new, fun u member inSeen => later.apart u member (List.mem_cons_of_mem _ inSeen)⟩
    · exact List.forall_mem_cons.mpr ⟨clean, later.clean⟩

theorem fresh_iff_sound : Fresh [] tokens ∧ tokens ≠ [] ↔ Sound tokens :=
  ⟨fun ⟨fresh, present⟩ => ⟨present, fresh.distinct, fresh.clean⟩,
    fun sound => ⟨⟨sound.distinct, fun _ _ => List.not_mem_nil, sound.clean⟩, sound.present⟩⟩

/-- One more token that is not blank, was not seen and has scopes, in front of the others. -/
theorem Fresh.cons {raw : List Char} (filled : ¬(String.ofList (trim raw)).isEmpty = true)
    (new : ¬seen.contains (String.ofList (trim raw)) = true) (granted : ¬scopes.isEmpty = true)
    (clean : ∀ scope ∈ scopes, IsTrimmed scope)
    (later : Fresh (String.ofList (trim raw) :: seen) tokens) :
    Fresh seen ({ token := String.ofList (trim raw), scopes } :: tokens) := by
  have trimmed : IsTrimmed (String.ofList (trim raw)) := by
    refine isTrimmed_ofList_iff.mpr ⟨trim_trim raw, fun nothing => filled ?_⟩
    rw [nothing]
    rfl
  exact fresh_cons_iff.mpr ⟨⟨trimmed, fun nothing => granted (List.isEmpty_iff.mpr nothing), clean,
    rfl⟩, fun member => new (List.contains_iff_mem.mpr member), later⟩

theorem isTrimmed_of_trimScopes {token : String} {given : List String}
    (read : trimScopes token given = .ok scopes) : ∀ scope ∈ scopes, IsTrimmed scope := by
  induction given generalizing scopes with
  | nil =>
      cases read
      exact nofun
  | cons scope rest ih =>
      unfold trimScopes at read
      simp only at read
      split at read
      · cases read
      · next filled =>
        obtain ⟨more, later, same⟩ := bind_eq_ok.mp read
        rw [← pure_eq_ok.mp same, List.forall_mem_cons]
        exact ⟨isTrimmed_ofList_iff.mpr ⟨trim_trim _, fun nothing =>
          filled (List.isEmpty_iff.mpr nothing)⟩, ih later⟩

theorem isTrimmed_of_segments (cs : List Char) :
    ∀ scope ∈ (segments ',' cs).map String.ofList, IsTrimmed scope := by
  intro scope member
  obtain ⟨segment, inSegments, rfl⟩ := List.mem_map.mp member
  have isSegment := isSegment_of_mem_segments inSegments
  exact isTrimmed_ofList_iff.mpr ⟨isSegment.trimmed, isSegment.filled⟩

theorem fresh_of_ofElements {elements : List Element}
    (read : ofElements seen elements = .ok tokens) : Fresh seen tokens := by
  induction elements generalizing seen tokens with
  | nil =>
      cases read
      exact fresh_nil seen
  | cons element rest ih =>
      unfold ofElements at read
      simp only at read
      split at read
      · cases read
      · next filled =>
        split at read
        · cases read
        · next new =>
          obtain ⟨scopes, trimmed, read⟩ := bind_eq_ok.mp read
          split at read
          · cases read
          · next granted =>
            obtain ⟨more, later, same⟩ := bind_eq_ok.mp read
            rw [← pure_eq_ok.mp same]
            exact (ih later).cons filled new granted (isTrimmed_of_trimScopes trimmed)

theorem fresh_of_ofEntries {entries : List (List Char)}
    (read : ofEntries seen entries = .ok tokens) : Fresh seen tokens := by
  induction entries generalizing seen tokens with
  | nil =>
      cases read
      exact fresh_nil seen
  | cons entry rest ih =>
      unfold ofEntries at read
      split at read
      · cases read
      · next before after _ =>
        simp only at read
        split at read
        · cases read
        · next filled =>
          split at read
          · cases read
          · next new =>
            split at read
            · cases read
            · next granted =>
              obtain ⟨more, later, same⟩ := bind_eq_ok.mp read
              rw [← pure_eq_ok.mp same]
              exact (ih later).cons filled new granted (isTrimmed_of_segments after)

/-- A list of elements is not read as no tokens. -/
theorem ne_nil_of_ofElements {element : Element} {rest : List Element}
    (read : ofElements seen (element :: rest) = .ok tokens) : tokens ≠ [] := by
  rintro rfl
  unfold ofElements at read
  simp only at read
  split at read
  · cases read
  · split at read
    · cases read
    · obtain ⟨_, _, read⟩ := bind_eq_ok.mp read
      split at read
      · cases read
      · obtain ⟨_, _, same⟩ := bind_eq_ok.mp read
        cases pure_eq_ok.mp same

/-- What is read from a text, in either form, is sound. -/
theorem sound_of_readAll {raw : String} (read : readAll raw = .ok tokens) : Sound tokens := by
  rw [← fresh_iff_sound]
  unfold readAll at read
  split at read
  · unfold readJson at read
    split at read
    next => cases read
    next => cases read
    next elements noList _ =>
      refine ⟨fresh_of_ofElements read, ?_⟩
      cases elements with
      | nil => exact (noList rfl).elim
      | cons element rest => exact ne_nil_of_ofElements read
  · cases read
  · obtain ⟨tokens', entries, same⟩ := bind_eq_ok.mp read
    split at same
    · cases same
    · next filled =>
      rw [← pure_eq_ok.mp same]
      exact ⟨fresh_of_ofEntries entries, fun nothing => filled (List.isEmpty_iff.mpr nothing)⟩

theorem wellFormed_of_readAll {raw : String} (read : readAll raw = .ok tokens) :
    WellFormed tokens :=
  (sound_of_readAll read).wellFormed

end ScopedToken

end LayeredConfig
