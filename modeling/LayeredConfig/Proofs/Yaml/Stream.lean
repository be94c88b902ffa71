import LayeredConfig.Yaml.Token.Stream

/-!
# Tokens that are settled

A pass over a text goes back only to a node that may still turn out to be a key.
So the tokens in front of all such nodes stay what they are, however the text
goes on, and even if it turns out to be malformed.

Main statement: `Scan.Begins.suffix_scanFrom`.
-/

namespace LayeredConfig.Yaml.Scan

variable {front : List Token} {l l' : Scan} {g : Glyph}

/-- The tokens begin with these, and every possible key stands behind them. -/
structure Begins (front : List Token) (l : Scan) : Prop where
  tokens : front.reverse <:+ l.tokens
  count : l.count = l.tokens.length
  keys : ∀ k, some k ∈ l.keys → front.length ≤ k.position

namespace Begins

theorem le_count (b : Begins front l) : front.length ≤ l.count := by
  rw [b.count, ← List.length_reverse]
  exact b.tokens.length_le

/-- What stands behind a place behind the first tokens may be dropped. -/
theorem suffix_drop (b : Begins front l) {position : Nat} (behind : front.length ≤ position) :
    front.reverse <:+ l.tokens.drop (l.count - position) := by
  obtain ⟨later, whole⟩ := b.tokens
  have few : l.count - position ≤ later.length := by
    rw [b.count, ← whole, List.length_append, List.length_reverse]
    omega
  rw [← whole, List.drop_append_of_le_length few]
  exact List.suffix_append _ _

/-! ## Single changes -/

theorem allow (b : Begins front l) (allowed : Bool) :
    Begins front { l with keyAllowed := allowed } :=
  ⟨b.tokens, b.count, b.keys⟩

theorem emit (b : Begins front l) (t : Token) : Begins front (l.emit t) where
  tokens := b.tokens.trans (List.suffix_cons t l.tokens)
  count := congrArg (· + 1) b.count
  keys := b.keys

theorem insertAt (b : Begins front l) {position : Nat} (behind : front.length ≤ position)
    (t : Token) : Begins front (l.insertAt position t) where
  tokens := ((b.suffix_drop behind).trans (List.suffix_cons t _)).trans (List.suffix_append _ _)
  count := by
    simp only [Scan.insertAt, List.length_append, List.length_take, List.length_cons,
      List.length_drop, b.count]
    omega
  keys := b.keys

theorem closeBlocks (b : Begins front l) (column : Option Nat) :
    Begins front (l.closeBlocks column) := by
  unfold Scan.closeBlocks
  split
  · exact b
  · refine ⟨b.tokens.trans (List.suffix_append _ _), ?_, b.keys⟩
    simp only [List.length_append, List.length_replicate, b.count]
    omega

theorem openBlock (b : Begins front l) (column : Nat) {position : Option Nat}
    (behind : ∀ p, position = some p → front.length ≤ p) (t : Token) :
    Begins front (l.openBlock column position t) := by
  have opened : Begins front { l with blocks := column :: l.blocks } :=
    ⟨b.tokens, b.count, b.keys⟩
  unfold Scan.openBlock
  split
  · cases position with
    | some p => exact opened.insertAt (behind p rfl) t
    | none => exact opened.emit t
  · exact b

theorem openHere (b : Begins front l) (column : Nat) (t : Token) :
    Begins front (l.openBlock column none t) := by
  refine b.openBlock column ?_ t
  intro p given
  contradiction

/-! ## Possible keys -/

theorem dropKey (b : Begins front l) (step : l.dropKey = some l') : Begins front l' := by
  unfold Scan.dropKey at step
  split at step
  next k outer shape =>
    split at step
    · contradiction
    · cases step
      refine ⟨b.tokens, b.count, fun k' member => b.keys k' ?_⟩
      rw [shape]
      rcases List.mem_cons.mp member with same | inOuter
      · contradiction
      · exact List.mem_cons_of_mem _ inOuter
  next =>
    cases step
    exact b

theorem saveKey (b : Begins front l) (step : l.saveKey g = some l') : Begins front l' := by
  unfold Scan.saveKey at step
  split at step
  next =>
    obtain ⟨cleared, dropped, saved⟩ := Option.bind_eq_some_iff.mp step
    have kept := b.dropKey dropped
    cases saved
    refine ⟨kept.tokens, kept.count, fun k member => ?_⟩
    rcases List.mem_cons.mp member with same | outer
    · cases same
      exact b.le_count
    · exact kept.keys k (List.mem_of_mem_drop outer)
  next =>
    cases step
    exact b

theorem dropStale (b : Begins front l) (step : l.dropStale g = some l') : Begins front l' := by
  unfold Scan.dropStale at step
  split at step
  · contradiction
  · cases step
    refine ⟨b.tokens, b.count, fun k member => ?_⟩
    obtain ⟨known, inKeys, kept⟩ := List.mem_map.mp member
    obtain ⟨same, _⟩ := Option.filter_eq_some_iff.mp kept
    rw [same] at inKeys
    exact b.keys k inKeys

theorem suffix_settled (b : Begins front l) (gs : List Glyph) :
    front.reverse <:+ l.settled gs := by
  unfold Scan.settled
  simp only
  split
  next position least =>
    obtain ⟨known, inKeys, waits⟩ := List.mem_filterMap.mp (List.min?_mem least)
    obtain ⟨k, kept, rfl⟩ := Option.map_eq_some_iff.mp waits
    obtain ⟨same, _⟩ := Option.filter_eq_some_iff.mp kept
    rw [same] at inKeys
    exact b.suffix_drop (b.keys k inKeys)
  next => exact b.tokens

theorem skip (b : Begins front l) (allowed comment : Bool) (gs : List Glyph) :
    Begins front (skipToToken.skip l allowed comment gs).1 := by
  induction gs generalizing allowed comment with
  | nil => exact b.allow allowed
  | cons g rest ih =>
      unfold skipToToken.skip
      repeat' split
      all_goals first | exact ih _ _ | exact b.allow allowed

theorem skipToToken (b : Begins front l) (gs : List Glyph) :
    Begins front (l.skipToToken gs).1 := by
  cases gs with
  | nil => exact b
  | cons g rest => exact b.skip _ _ _

/-! ## Marks -/

theorem outerMark (b : Begins front l) (step : l.outerMark = some l') : Begins front l' := by
  obtain ⟨closed, dropped, same⟩ := Option.bind_eq_some_iff.mp step
  cases same
  exact ((b.closeBlocks none).dropKey dropped).allow false

theorem openFlow (b : Begins front l) {t : Token} (step : l.openFlow g t = some l') :
    Begins front l' := by
  obtain ⟨saved, kept, same⟩ := Option.bind_eq_some_iff.mp step
  have wasSaved := b.saveKey kept
  cases same
  have inside : Begins front { saved with keys := none :: saved.keys, flow := saved.flow + 1,
                                          keyAllowed := true } := by
    refine ⟨wasSaved.tokens, wasSaved.count, fun k member => ?_⟩
    rcases List.mem_cons.mp member with same | outer
    · contradiction
    · exact wasSaved.keys k outer
  exact inside.emit t

theorem closeFlow (b : Begins front l) {t : Token} (step : l.closeFlow t = some l') :
    Begins front l' := by
  obtain ⟨cleared, dropped, same⟩ := Option.bind_eq_some_iff.mp step
  have wasDropped := b.dropKey dropped
  cases same
  let outer := if 0 < cleared.flow then cleared.keys.drop 1 else cleared.keys
  have outside : Begins front { cleared with keys := outer, flow := cleared.flow - 1,
                                             keyAllowed := false } := by
    refine ⟨wasDropped.tokens, wasDropped.count, fun k member => wasDropped.keys k ?_⟩
    unfold outer at member
    split at member
    · exact List.mem_of_mem_drop member
    · exact member
  exact outside.emit t

theorem flowEntry (b : Begins front l) (step : l.flowEntry = some l') : Begins front l' := by
  obtain ⟨cleared, dropped, same⟩ := Option.bind_eq_some_iff.mp step
  cases same
  exact ((b.dropKey dropped).allow true).emit _

theorem blockEntry (b : Begins front l) (step : l.blockEntry g = some l') : Begins front l' := by
  unfold Scan.blockEntry at step
  split at step
  · contradiction
  · obtain ⟨cleared, dropped, same⟩ := Option.bind_eq_some_iff.mp step
    cases same
    exact (((b.openHere g.column _).dropKey dropped).allow true).emit _

theorem explicitKey (b : Begins front l) (step : l.explicitKey g = some l') : Begins front l' := by
  unfold Scan.explicitKey at step
  split at step
  · contradiction
  · obtain ⟨cleared, dropped, same⟩ := Option.bind_eq_some_iff.mp step
    cases same
    exact (((b.openHere g.column _).dropKey dropped).allow _).emit _

theorem valueMark (b : Begins front l) (step : l.valueMark g = some l') : Begins front l' := by
  unfold Scan.valueMark at step
  split at step
  next k outer shape =>
    cases step
    have behind : front.length ≤ k.position := b.keys k (by rw [shape]; exact List.mem_cons_self)
    have cleared : Begins front { l with keys := none :: outer, keyAllowed := false } := by
      refine ⟨b.tokens, b.count, fun k' member => b.keys k' ?_⟩
      rw [shape]
      rcases List.mem_cons.mp member with same | inOuter
      · contradiction
      · exact List.mem_cons_of_mem _ inOuter
    refine ((cleared.insertAt behind .key).openBlock k.column ?_ .blockMapping).emit .value
    rintro p ⟨⟩
    exact behind
  next =>
    split at step
    · contradiction
    · cases step
      exact ((b.openHere g.column .blockMapping).allow _).emit .value

/-! ## The pass -/

/-- A node that may be a key is saved as one in front of its token. -/
theorem saveKey_emit (b : Begins front l) {saved : Scan} (kept : l.saveKey g = some saved)
    (allowed : Bool) (t : Token) :
    Begins front ({ saved with keyAllowed := allowed }.emit t) :=
  ((b.saveKey kept).allow allowed).emit t

/-- Either branch of a choice may have led to the result. -/
theorem of_ite {α : Type} {c P : Prop} [Decidable c] {x y : Option α} {a : α}
    (first : x = some a → P) (second : y = some a → P) : (if c then x else y) = some a → P := by
  intro step
  split at step
  · exact first step
  · exact second step

/-- A step that reads no text ends with what it made of the pass. -/
theorem of_step {start : Option Scan} {made : Scan → Scan} {rest after : List Glyph}
    (keeps : ∀ reached, start = some reached → Begins front (made reached))
    (step : (start >>= fun reached => pure (made reached, rest)) = some (l', after)) :
    Begins front l' := by
  obtain ⟨reached, begins, same⟩ := Option.bind_eq_some_iff.mp step
  cases same
  exact keeps reached begins

theorem next (b : Begins front l) {rest after : List Glyph}
    (step : l.next g rest = some (l', after)) : Begins front l' := by
  revert step
  unfold Scan.next
  refine of_ite (fun step => ?_) ?_
  · obtain ⟨marked, outer, step⟩ := Option.bind_eq_some_iff.mp step
    obtain ⟨⟨token, behind⟩, _, same⟩ := Option.bind_eq_some_iff.mp step
    cases same
    exact (b.outerMark outer).emit token
  -- The marks, in the order of the pass; none of them reads on.
  refine of_ite (of_step fun _ outer => (b.outerMark outer).emit _) ?_
  refine of_ite (of_step fun _ outer => (b.outerMark outer).emit _) ?_
  refine of_ite (of_step fun _ opened => b.openFlow opened) ?_
  refine of_ite (of_step fun _ opened => b.openFlow opened) ?_
  refine of_ite (of_step fun _ closed => b.closeFlow closed) ?_
  refine of_ite (of_step fun _ closed => b.closeFlow closed) ?_
  refine of_ite (of_step fun _ entered => b.flowEntry entered) ?_
  refine of_ite (of_step fun _ entered => b.blockEntry entered) ?_
  refine of_ite (of_step fun _ marked => b.explicitKey marked) ?_
  refine of_ite (of_step fun _ marked => b.valueMark marked) ?_
  -- The nodes.  Each may be a key, except for a block scalar.
  refine of_ite (fun step => ?_) ?_
  · obtain ⟨saved, kept, step⟩ := Option.bind_eq_some_iff.mp step
    obtain ⟨⟨name, behind⟩, _, same⟩ := Option.bind_eq_some_iff.mp step
    cases same
    exact b.saveKey_emit kept _ _
  refine of_ite (fun step => ?_) ?_
  · obtain ⟨saved, kept, step⟩ := Option.bind_eq_some_iff.mp step
    obtain ⟨⟨name, behind⟩, _, same⟩ := Option.bind_eq_some_iff.mp step
    cases same
    exact b.saveKey_emit kept _ _
  refine of_ite (fun step => ?_) ?_
  · obtain ⟨cleared, dropped, step⟩ := Option.bind_eq_some_iff.mp step
    obtain ⟨⟨text, behind⟩, _, same⟩ := Option.bind_eq_some_iff.mp step
    cases same
    exact ((b.dropKey dropped).allow _).emit _
  refine of_ite (fun step => ?_) ?_
  · obtain ⟨saved, kept, step⟩ := Option.bind_eq_some_iff.mp step
    obtain ⟨⟨text, behind⟩, _, same⟩ := Option.bind_eq_some_iff.mp step
    cases same
    exact b.saveKey_emit kept _ _
  refine of_ite (fun step => ?_) ?_
  · obtain ⟨saved, kept, step⟩ := Option.bind_eq_some_iff.mp step
    obtain ⟨⟨text, behind⟩, _, same⟩ := Option.bind_eq_some_iff.mp step
    cases same
    exact b.saveKey_emit kept _ _
  refine of_ite (fun step => ?_) ?_
  · obtain ⟨saved, kept, step⟩ := Option.bind_eq_some_iff.mp step
    obtain ⟨plain, _, same⟩ := Option.bind_eq_some_iff.mp step
    cases same
    exact b.saveKey_emit kept _ _
  · intro step
    contradiction

theorem finish (b : Begins front l) {tokens : List Token} (step : l.finish = some tokens) :
    front.reverse <:+ tokens := by
  unfold Scan.finish at step
  split at step
  · contradiction
  · obtain ⟨marked, outer, same⟩ := Option.bind_eq_some_iff.mp step
    cases same
    exact ((b.outerMark outer).emit .streamEnd).tokens

/-- The first tokens come first in the end, too. -/
theorem suffix_scanFrom (b : Begins front l) (gs : List Glyph) :
    front.reverse <:+ scanFrom l gs := by
  -- On the length of the text that is left: one step may take any number of characters.
  induction size : gs.length using Nat.strongRecOn generalizing l gs with
  | ind n ih =>
      have stopped : front.reverse <:+ .bad :: l.settled gs :=
        (b.suffix_settled gs).trans (List.suffix_cons _ _)
      have ended : ∀ reached : Scan, Begins front reached →
          front.reverse <:+ reached.finish.getD (.bad :: l.settled gs) := by
        intro reached begins
        cases done : reached.finish with
        | none => exact stopped
        | some tokens => exact begins.finish done
      rw [scanFrom]
      have skipped := b.skipToToken gs
      generalize l.skipToToken gs = found at skipped ⊢
      obtain ⟨first, text⟩ := found
      cases text with
      | nil => exact ended first skipped
      | cons g rest =>
          simp only
          split
          · exact stopped
          next fresh freshened =>
            have opened := (skipped.dropStale freshened).closeBlocks (some g.column)
            split
            · exact ended _ opened
            split
            · exact stopped
            next following after step =>
              split
              · exact stopped
              split
              next shorter => exact ih _ (size ▸ shorter) (opened.next step) after rfl
              next => exact stopped

end Begins

end LayeredConfig.Yaml.Scan
