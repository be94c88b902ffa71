import LayeredConfig.Json.Scan
import LayeredConfig.Json.Value
import LayeredConfig.Proofs.Text.Cut

/-!
# Reading what was written as JSON

A string is written with escapes and read back without them, whatever text
follows it.  A list of strings is read back item by item; what follows the first
item comes behind commas.

Main statements: `Json.string_writeText`, `Json.strings_write`.
-/

namespace LayeredConfig.Json

open Text

variable {rest tail : List Char}

/-! ## One character -/

/-- The two last digits of a control character are all that it needs. -/
theorem digits_control : ∀ n < 0x20, ∃ high low,
    List.replicate (4 - (Nat.toDigits 16 n).length) '0' ++ Nat.toDigits 16 n =
      ['0', '0', high, low] ∧ Number.digitsFrom 16 0 ['0', '0', high, low] = some n := by
  have each : ∀ n < 0x20, List.replicate (4 - (Nat.toDigits 16 n).length) '0' ++
      Nat.toDigits 16 n = ['0', '0', Nat.digitChar (n / 16), Nat.digitChar (n % 16)] ∧
        Number.digitsFrom 16 0 ['0', '0', Nat.digitChar (n / 16), Nat.digitChar (n % 16)] =
          some n := by decide +kernel
  exact fun n control => ⟨_, _, each n control⟩

theorem unitEscape_control {c : Char} (control : c.toNat < 0x20) (rest : List Char) :
    unitEscape (List.replicate (4 - (Nat.toDigits 16 c.toNat).length) '0' ++
      Nat.toDigits 16 c.toNat ++ rest) = some (c, rest) := by
  obtain ⟨high, low, digits, read⟩ := digits_control c.toNat control
  have unit : hexUnit ('0' :: '0' :: high :: low :: rest) = some (c.toNat, rest) := by
    rw [hexUnit, read, Option.map_some]
  have noPair : ¬(0xD800 ≤ c.toNat ∧ c.toNat < 0xDC00) := by omega
  have noHalf : ¬(0xDC00 ≤ c.toNat ∧ c.toNat < 0xE000) := by omega
  rw [digits]
  simp only [unitEscape, List.cons_append, List.nil_append, unit, Option.bind_eq_bind,
    Option.bind_some, if_neg noPair, if_neg noHalf, Char.ofNat_toNat, Option.pure_def]

/-- A character is written with a letter behind a backslash, with its number, or as it is. -/
theorem writeChar_cases (c : Char) :
    (∃ e, writeChar c = ['\\', e] ∧ shortEscape e = some c) ∨
      (c.toNat < 0x20 ∧ writeChar c = '\\' :: 'u' ::
        (List.replicate (4 - (Nat.toDigits 16 c.toNat).length) '0' ++ Nat.toDigits 16 c.toNat)) ∨
      (¬c.toNat < 0x20 ∧ c ≠ '"' ∧ c ≠ '\\' ∧ writeChar c = [c]) := by
  unfold writeChar
  by_cases quote : c = '"'
  · exact .inl ⟨'"', by rw [if_pos quote], by rw [quote]; rfl⟩
  by_cases backslash : c = '\\'
  · exact .inl ⟨'\\', by rw [if_neg quote, if_pos backslash], by rw [backslash]; rfl⟩
  rw [if_neg quote, if_neg backslash]
  iterate 5
    split
    next same => exact .inl ⟨_, rfl, same ▸ rfl⟩
  split
  next control => exact .inr (.inl ⟨control, rfl⟩)
  next printed => exact .inr (.inr ⟨printed, quote, backslash, rfl⟩)

/-- A written character is read as it was, in front of what follows. -/
theorem stringTail_writeChar (c : Char) {text : List Char}
    (later : stringTail rest = .ok (text, tail)) :
    stringTail (writeChar c ++ rest) = .ok (c :: text, tail) := by
  obtain ⟨e, written, known⟩ | ⟨control, written⟩ | ⟨printed, noQuote, noBackslash, written⟩ :=
    writeChar_cases c
  · have noUnit : e = 'u' → False := by
      rintro rfl
      cases known
    rw [written, List.cons_append, List.cons_append, List.nil_append,
      stringTail.eq_4 e rest noUnit, known, later]
    rfl
  · have unit := unitEscape_control control rest
    have shorter : rest.length < (List.replicate (4 - (Nat.toDigits 16 c.toNat).length) '0' ++
        Nat.toDigits 16 c.toNat ++ rest).length := by
      obtain ⟨_, _, digits, _⟩ := digits_control c.toNat control
      rw [digits, List.length_append]
      exact Nat.lt_add_of_pos_left (Nat.zero_lt_succ 3)
    rw [written, List.cons_append, List.cons_append, stringTail.eq_3]
    simp only [unit, dif_pos shorter, later]
    rfl
  · have refused : ¬(c.toNat < 0x20 ∨ c = '\\') := not_or.mpr ⟨printed, noBackslash⟩
    rw [written, List.singleton_append, stringTail.eq_5 c rest noQuote
      (fun _ same _ => noBackslash same) (fun _ _ same _ => noBackslash same),
      if_neg refused, later]
    rfl

/-! ## One string -/

theorem stringTail_flatMap_writeChar (text rest : List Char) :
    stringTail (text.flatMap writeChar ++ '"' :: rest) = .ok (text, rest) := by
  induction text with
  | nil => rw [List.flatMap_nil, List.nil_append, stringTail.eq_2]
  | cons c text ih =>
      rw [List.flatMap_cons, List.append_assoc]
      exact stringTail_writeChar c ih

/-- A written string opens with a quote. -/
theorem exists_writeText_append (s : String) (rest : List Char) :
    ∃ body, (writeText s).toList ++ rest = '"' :: body ∧
      stringTail body = .ok (s.toList, rest) := by
  refine ⟨s.toList.flatMap writeChar ++ '"' :: rest, ?_, stringTail_flatMap_writeChar _ _⟩
  rw [writeText, String.toList_ofList, List.cons_append, List.cons_append, List.append_assoc,
    List.singleton_append]

theorem string_quote {s : String} {body : List Char}
    (closed : stringTail body = .ok (s.toList, rest)) : string ('"' :: body) = .ok (s, rest) := by
  have unblanked : skipBlank ('"' :: body) = '"' :: body := rfl
  simp only [string, unblanked, closed]
  exact congrArg (fun text => Except.ok (text, rest)) String.ofList_toList

/-- A written string is read as it was, and nothing behind it is touched. -/
theorem string_writeText (s : String) (rest : List Char) :
    string ((writeText s).toList ++ rest) = .ok (s, rest) := by
  obtain ⟨body, written, closed⟩ := exists_writeText_append s rest
  rw [written, string_quote closed]

/-! ## A list of strings -/

/-- What stands in front of an item: a comma, but not in front of the first one. -/
def comma (first : Bool) : List Char :=
  if first then [] else [',']

theorem comma_true : comma true = [] := rfl

theorem comma_false : comma false = [','] := rfl

/-- One item is read, whatever comes behind it. -/
theorem stringsTail_item (first : Bool) (s : String) (after : List Char) :
    stringsTail first (comma first ++ ((writeText s).toList ++ after)) = do
      let (more, tail) ← stringsTail false after
      return (s :: more, tail) := by
  obtain ⟨body, written, closed⟩ := exists_writeText_append s after
  have shorter : after.length < (comma first ++ ((writeText s).toList ++ after)).length := by
    simp only [writeText, List.length_append, String.toList_ofList, List.length_cons]
    omega
  have read := string_quote closed
  rw [written] at shorter ⊢
  rw [stringsTail]
  cases first with
  | true =>
    have unblanked : skipBlank ('"' :: body) = '"' :: body := rfl
    simp only [comma, if_true, List.nil_append] at shorter ⊢
    simp only [unblanked, Except.bind, read, dif_pos shorter]
    rfl
  | false =>
    have unblanked : skipBlank (',' :: '"' :: body) = ',' :: '"' :: body := rfl
    have separated : comma false ++ '"' :: body = ',' :: '"' :: body := rfl
    rw [separated] at shorter ⊢
    simp only [unblanked, Bool.false_eq_true, if_false, Except.bind, read, dif_pos shorter]
    rfl

theorem stringsTail_others (names : List String) (after : List Char) :
    stringsTail false
        ((names.map fun s => (writeText s).toList).flatMap (',' :: ·) ++ ']' :: after) =
      .ok (names, after) := by
  induction names with
  | nil =>
      rw [List.map_nil, List.flatMap_nil, List.nil_append, stringsTail]
      rfl
  | cons s names ih =>
      have step := stringsTail_item false s
        ((names.map fun s => (writeText s).toList).flatMap (',' :: ·) ++ ']' :: after)
      rw [ih, comma_false, List.singleton_append] at step
      rw [List.map_cons, List.flatMap_cons, List.append_assoc, List.cons_append]
      exact step

theorem writeItems_eq_map (items : List Json) : writeItems items = items.map write := by
  induction items with
  | nil => rfl
  | cons item rest ih => rw [writeItems, ih, List.map_cons]

/-- A list is written between brackets, its items between commas. -/
theorem toList_write_list (items : List Json) (after : List Char) :
    (write (.list items)).toList ++ after =
      '[' :: (joinWith ',' (items.map fun item => (write item).toList) ++ ']' :: after) := by
  have items : (",".intercalate (items.map write)).toList =
      joinWith ',' ((items.map write).map String.toList) := toList_intercalate ',' _
  rw [write, writeItems_eq_map, String.toList_append, String.toList_append, items, List.map_map,
    List.append_assoc, List.append_assoc]
  rfl

/-- A written list of strings is read as it was, and nothing behind it is touched. -/
theorem strings_write (names : List String) (after : List Char) :
    strings ((write (.list (names.map .text))).toList ++ after) = .ok (names, after) := by
  have opened : ∀ cs, strings ('[' :: cs) = stringsTail true cs := fun _ => rfl
  have texts : (fun item => (write item).toList) ∘ text = fun s => (writeText s).toList := rfl
  rw [toList_write_list, List.map_map, texts, opened]
  cases names with
  | nil =>
      rw [List.map_nil, joinWith, List.nil_append, stringsTail]
      rfl
  | cons s names =>
      have step := stringsTail_item true s
        ((names.map fun s => (writeText s).toList).flatMap (',' :: ·) ++ ']' :: after)
      rw [stringsTail_others names after, comma_true, List.nil_append] at step
      rw [List.map_cons, joinWith_cons, List.append_assoc]
      exact step

end LayeredConfig.Json
