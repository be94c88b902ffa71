import LayeredConfig.Proofs.Success
import LayeredConfig.Yaml.Shape

/-!
# Keys as both readers see them

A document is read twice: as untyped values, and by readers of a known shape.  A
key of a record is any scalar as it is written.  An untyped key is text only if
the core schema makes nothing else of it, as is the case for a word.  Tags have
no say in this.  They have one in what a mapping is: with a tag of the author's
own, the untyped value is no mapping any more.

Main statements: `text?_of_text`, `text_of_text?`, `reads_of_ofEntries`.
-/

namespace LayeredConfig.Yaml

open Number Success

def Tree.ownTag : Tree → Option (List Char)
  | .scalar tag _ _ | .sequence tag _ | .mapping tag _ => Value.ownTag tag
  | .broken => none

/-- Text that the core schema takes for text. -/
def isWord (cs : List Char) : Bool :=
  !cs.isEmpty && !isNullWord cs && (readBool cs).isNone && (readWhole cs).isNone &&
    (readFloat cs).isNone

namespace Value

/-! ## Scalars -/

theorem ofPlain_word {cs : List Char} (word : isWord cs = true) :
    ofPlain cs = .ok (.text (String.ofList cs)) := by
  simp only [isWord, Bool.and_eq_true, Bool.not_eq_true', Option.isNone_iff_eq_none] at word
  obtain ⟨⟨⟨⟨filled, notNull⟩, noBool⟩, noWhole⟩, noFloat⟩ := word
  simp [ofPlain, filled, notNull, noBool, noWhole, noFloat]

theorem ofSchemeTag_word {tag cs : List Char} {v : Value} (word : isWord cs = true)
    (read : ofSchemeTag tag cs = .ok v) : v = .text (String.ofList cs) := by
  simp only [isWord, Bool.and_eq_true, Bool.not_eq_true', Option.isNone_iff_eq_none] at word
  obtain ⟨⟨⟨⟨filled, notNull⟩, noBool⟩, noWhole⟩, noFloat⟩ := word
  unfold ofSchemeTag at read
  simp only [noBool, noWhole, noFloat, notNull] at read
  split at read
  · cases read
  · split at read
    · cases read
    · split at read
      · cases read
      · split at read
        · cases read
        · cases read
          rfl

theorem untagged_withTag (tag : Option (List Char)) (v : Value) :
    (withTag tag v).untagged = v.untagged := by
  unfold withTag
  split <;> rfl

theorem text?_withTag (tag : Option (List Char)) (v : Value) :
    (withTag tag v).text? = v.text? := by
  rw [text?, text?, untagged_withTag]

theorem withTag_of_none {tag : Option (List Char)} (none : ownTag tag = none) (v : Value) :
    withTag tag v = v := by
  rw [withTag, none]

theorem withTag_of_some {tag : Option (List Char)} {name : List Char}
    (own : ownTag tag = some name) (v : Value) : withTag tag v = .tagged name v := by
  rw [withTag, own]

/-- A scalar is read by its scheme, or it is what it is without a tag, with its own tag. -/
theorem ofTree_scalar {tag : Option (List Char)} {cs : List Char} {style : Style} {v : Value}
    (read : ofTree (.scalar tag cs style) = .ok v) :
    (∃ scheme, tag = some scheme ∧ ofSchemeTag scheme cs = .ok v) ∨
      ∃ inner, ofUntagged cs style = .ok inner ∧ v = withTag tag inner := by
  unfold ofTree at read
  split at read
  · next scheme _ => exact Or.inl ⟨scheme, rfl, read⟩
  · obtain ⟨inner, first, same⟩ := bind_eq_ok.mp read
    exact Or.inr ⟨inner, first, (pure_eq_ok.mp same).symm⟩

/-! ## Keys -/

/-- A word that is the name of a field is text to the untyped reader too. -/
theorem text?_of_text {t : Tree} {v : Value} {name : String} (named : Tree.text t = .ok name)
    (word : isWord name.toList = true) (read : ofTree t = .ok v) : v.text? = some name := by
  cases t with
  | scalar tag cs style =>
      obtain rfl : String.ofList cs = name := Except.ok.inj named
      rw [String.toList_ofList] at word
      rcases ofTree_scalar read with ⟨scheme, _, schemed⟩ | ⟨inner, untagged, rfl⟩
      · rw [ofSchemeTag_word word schemed]
        rfl
      · rw [text?_withTag]
        unfold ofUntagged at untagged
        split at untagged
        · rw [ofPlain_word word] at untagged
          cases untagged
          rfl
        · cases untagged
          rfl
  | sequence _ _ | mapping _ _ | broken => cases named

theorem text?_ofPlain {cs : List Char} {v : Value} {name : String} (read : ofPlain cs = .ok v)
    (text : v.text? = some name) : name = String.ofList cs := by
  unfold ofPlain at read
  split at read
  · cases read
    cases text
  · split at read
    · cases read
      cases text
    · unfold ofWhole at read
      split at read
      · cases read
        cases text
      · cases read
    · split at read
      · split at read
        · cases read
          exact (Option.some.inj text).symm
        · cases read
          cases text
      · cases read
        exact (Option.some.inj text).symm

theorem text?_ofSchemeTag {tag cs : List Char} {v : Value} {name : String}
    (read : ofSchemeTag tag cs = .ok v) (text : v.text? = some name) :
    name = String.ofList cs := by
  unfold ofSchemeTag at read
  split at read
  · cases found : readBool cs with
    | none => simp [found] at read
    | some b =>
        simp only [found, Option.map_some] at read
        cases read
        cases text
  · split at read
    · unfold ofWhole at read
      split at read
      · split at read
        · cases read
          cases text
        · cases read
      · cases read
    · split at read
      · cases found : readFloat cs with
        | none => simp [found] at read
        | some x =>
            simp only [found, Option.map_some] at read
            cases read
            cases text
      · split at read
        · split at read
          · cases read
            cases text
          · cases read
        · cases read
          exact (Option.some.inj text).symm

/-- What is text to the untyped reader is a scalar, and names the same field. -/
theorem text_of_text? {t : Tree} {v : Value} {name : String} (read : ofTree t = .ok v)
    (text : v.text? = some name) : Tree.text t = .ok name := by
  cases t with
  | scalar tag cs style =>
      have same : name = String.ofList cs := by
        rcases ofTree_scalar read with ⟨scheme, _, schemed⟩ | ⟨inner, untagged, rfl⟩
        · exact text?_ofSchemeTag schemed text
        · rw [text?_withTag] at text
          unfold ofUntagged at untagged
          split at untagged
          · exact text?_ofPlain untagged text
          · cases untagged
            exact (Option.some.inj text).symm
      rw [same]
      rfl
  | sequence tag items =>
      rw [ofTree] at read
      obtain ⟨inner, _, same⟩ := bind_eq_ok.mp read
      rw [← pure_eq_ok.mp same, text?_withTag] at text
      cases text
  | mapping tag entries =>
      rw [ofTree] at read
      obtain ⟨inner, _, same⟩ := bind_eq_ok.mp read
      rw [← pure_eq_ok.mp same, text?_withTag] at text
      cases text
  | broken => cases read

/-! ## Entries -/

/-- The untyped reading of an entry. -/
def Reads (entry : Tree × Tree) (e : Value × Value) : Prop :=
  ofTree entry.1 = .ok e.1 ∧ ofTree entry.2 = .ok e.2

/-- Each entry is read, and nothing else. -/
theorem reads_of_ofEntries {keys : List Value} {entries : List (Tree × Tree)}
    {read : List (Value × Value)} (ok : ofEntries keys entries = .ok read) :
    (∀ entry ∈ entries, ∃ e ∈ read, Reads entry e) ∧
      ∀ e ∈ read, ∃ entry ∈ entries, Reads entry e := by
  induction entries generalizing keys read with
  | nil =>
      rw [ofEntries] at ok
      cases ok
      simp
  | cons entry rest ih =>
      obtain ⟨key, value⟩ := entry
      rw [ofEntries] at ok
      obtain ⟨k, keyRead, ok⟩ := bind_eq_ok.mp ok
      split at ok
      · cases ok
      · obtain ⟨v, valueRead, ok⟩ := bind_eq_ok.mp ok
        obtain ⟨behind, restRead, same⟩ := bind_eq_ok.mp ok
        obtain rfl := pure_eq_ok.mp same
        have first : Reads (key, value) (k, v) := ⟨keyRead, valueRead⟩
        obtain ⟨forward, backward⟩ := ih restRead
        constructor
        · intro entry member
          rcases List.mem_cons.mp member with rfl | later
          · exact ⟨(k, v), List.mem_cons_self, first⟩
          · obtain ⟨e, inRest, reads⟩ := forward entry later
            exact ⟨e, List.mem_cons_of_mem _ inRest, reads⟩
        · intro e member
          rcases List.mem_cons.mp member with rfl | later
          · exact ⟨(key, value), List.mem_cons_self, first⟩
          · obtain ⟨entry, inRest, reads⟩ := backward e later
            exact ⟨entry, List.mem_cons_of_mem _ inRest, reads⟩

theorem ofTree_mapping {tag : Option (List Char)} {entries : List (Tree × Tree)} {v : Value}
    (read : ofTree (.mapping tag entries) = .ok v) :
    ∃ inner, ofEntries [] entries = .ok inner ∧ v = withTag tag (.mapping inner) := by
  rw [ofTree] at read
  obtain ⟨inner, ok, same⟩ := bind_eq_ok.mp read
  exact ⟨inner, ok, (pure_eq_ok.mp same).symm⟩

/-- A text that is read is read off its tree. -/
theorem ofTree_of_ofText {text : String} {t : Tree} {v : Value}
    (root : (Document.ofText text).root = some t) (read : ofText text = .ok v) :
    ofTree t = .ok v := by
  unfold ofText at read
  simp only [root] at read
  obtain ⟨value, whole, rest⟩ := bind_eq_ok.mp read
  split at rest
  · cases rest
  · rw [whole, ← pure_eq_ok.mp rest]

/-- A mapping that is read as one holds what its entries are read as. -/
theorem ofEntries_of_ofTree {tag : Option (List Char)} {entries : List (Tree × Tree)}
    {read : List (Value × Value)} (ok : ofTree (.mapping tag entries) = .ok (.mapping read)) :
    ofEntries [] entries = .ok read := by
  obtain ⟨inner, entriesRead, same⟩ := ofTree_mapping ok
  cases own : ownTag tag with
  | none =>
      rw [withTag_of_none own] at same
      cases same
      exact entriesRead
  | some name =>
      rw [withTag_of_some own] at same
      cases same

end Value

end LayeredConfig.Yaml
