import LayeredConfig.Proofs.Json.Scan
import LayeredConfig.Proofs.Token.Reader

/-!
# Tokens that are written and read again

What a text is read as is sound, and a sound list is read back from its JSON form,
whatever the order of the members in each object.  It is read back from its entry
form too, if no separator stands inside a token or a scope and the text does not
look like JSON.

Main statement: `ScopedToken.readAll_round_trip`.
-/

namespace LayeredConfig.ScopedToken

open Text Json Success

variable {t : ScopedToken} {tokens : List ScopedToken} {seen : List String} {value : Json}

/-! ## Clean tokens pass the rules -/

theorem ofList_trim {s : String} (trimmed : IsTrimmed s) : String.ofList (trim s.toList) = s := by
  rw [trimmed.1, String.ofList_toList]

theorem trimScopes_clean (token : String) {scopes : List String}
    (clean : ∀ scope ∈ scopes, IsTrimmed scope) : trimScopes token scopes = .ok scopes := by
  induction scopes with
  | nil => rfl
  | cons scope rest ih =>
      rw [List.forall_mem_cons] at clean
      have filled : ¬(trim scope.toList).isEmpty = true := by
        rw [clean.1.1, List.isEmpty_iff]
        exact (isTrimmed_iff.mp clean.1).2
      simp only [trimScopes, if_neg filled, ih clean.2, ofList_trim clean.1]
      rfl

/-- None of the three tests that a reader makes refuses a token that is clean and new. -/
theorem Clean.passes (clean : t.Clean) (new : t.token ∉ seen) :
    ¬t.token.isEmpty = true ∧ ¬seen.contains t.token = true ∧ ¬t.scopes.isEmpty = true := by
  rw [String.isEmpty_iff, List.contains_iff_mem, List.isEmpty_iff]
  exact ⟨clean.token.2, new, clean.granted⟩

theorem Clean.eq_mk (clean : t.Clean) : { token := t.token, scopes := t.scopes } = t := by
  obtain ⟨token, scopes, user⟩ := t
  obtain rfl : user = none := clean.user
  rfl

/-! ## The JSON form -/

/-- What the object of a token is read as. -/
def element (t : ScopedToken) : Element :=
  { token := some t.token, scopes := some t.scopes }

theorem ofElements_fresh (fresh : Fresh seen tokens) :
    ofElements seen (tokens.map element) = .ok tokens := by
  induction tokens generalizing seen with
  | nil => rfl
  | cons t rest ih =>
      obtain ⟨clean, new, later⟩ := fresh_cons_iff.mp fresh
      obtain ⟨filled, unseen, granted⟩ := clean.passes new
      simp only [List.map_cons, ofElements, element, Option.getD_some, ofList_trim clean.token,
        if_neg filled, if_neg unseen, trimScopes_clean t.token clean.scopes]
      show (if t.scopes.isEmpty = true then _ else _) = _
      rw [if_neg granted, ih later]
      exact congrArg (fun t => Except.ok (t :: rest)) clean.eq_mk

def tokenMember (t : ScopedToken) : String × Json :=
  ("token", .text t.token)

def scopesMember (t : ScopedToken) : String × Json :=
  ("scopes", .list (t.scopes.map .text))

/-- The object holds the token and its scopes, in either order. -/
def IsObject (t : ScopedToken) (value : Json) : Prop :=
  value = .object [t.tokenMember, t.scopesMember] ∨ value = .object [t.scopesMember, t.tokenMember]

theorem isObject_toJson (t : ScopedToken) (noUser : t.user = none) : t.IsObject t.toJson := by
  refine Or.inr ?_
  rw [toJson, noUser]
  rfl

/-- One member from the front of the text, without the comma before it. -/
def Element.member (here : Element) (cs : List Char) :
    Except Json.Fault (Element × List Char) := do
  let (name, rest) ← Json.string cs
  let colon (cs : List Char) : Except Json.Fault (List Char) :=
    match skipBlank cs with
    | ':' :: after => .ok after
    | _ => .error .malformed
  match name with
  | "token" =>
      if here.token.isSome then .error (.duplicateMember name)
      else
        let (token, after) ← Json.string (← colon rest)
        return ({ here with token := some token }, after)
  | "scopes" =>
      if here.scopes.isSome then .error (.duplicateMember name)
      else
        let (scopes, after) ← Json.strings (← colon rest)
        return ({ here with scopes := some scopes }, after)
  | _ => return (here, ← skipValue (← colon rest))

variable {here next : Element} {cs body after : List Char}

/-- In front of a name the members are the next one and those behind it. -/
theorem Element.members_quote (first : Bool) (body : List Char) :
    members first here (comma first ++ '"' :: body) =
      match here.member ('"' :: body) with
      | .ok (next, rest) =>
          if rest.length < (comma first ++ '"' :: body).length then members false next rest
          else .error .malformed
      | .error f => .error f := by
  rw [members]
  cases first <;> rfl

/-- One member is read, whatever comes behind it. -/
theorem Element.members_member (first : Bool) {name : String}
    (read : here.member ((writeText name).toList ++ cs) = .ok (next, after))
    (shorter : after.length ≤ cs.length) :
    members first here (comma first ++ ((writeText name).toList ++ cs)) =
      members false next after := by
  have less : after.length < (comma first ++ ((writeText name).toList ++ cs)).length := by
    simp only [writeText, String.toList_ofList, List.length_append, List.length_cons]
    omega
  obtain ⟨body, written, _⟩ := exists_writeText_append name cs
  rw [written] at read less ⊢
  rw [members_quote, read]
  exact if_pos less

/-- The closing brace ends the object. -/
theorem Element.members_close (after : List Char) :
    members false here ('\x7d' :: after) = .ok (here, after) := by
  rw [members]
  rfl

theorem Element.members_token (first : Bool) (missing : here.token = none) (token : String)
    (after : List Char) :
    members first here (comma first ++
        ((writeText "token").toList ++ ':' :: ((write (.text token)).toList ++ after))) =
      members false { here with token := some token } after := by
  have colon : ∀ cs, skipBlank (':' :: cs) = ':' :: cs := fun _ => rfl
  refine members_member first ?_ (by rw [List.length_cons, List.length_append]; omega)
  rw [member, string_writeText, write]
  simp [colon, missing, string_writeText, bind, Except.bind]

theorem Element.members_scopes (first : Bool) (missing : here.scopes = none)
    (scopes : List String) (after : List Char) :
    members first here (comma first ++ ((writeText "scopes").toList ++
        ':' :: ((write (.list (scopes.map .text))).toList ++ after))) =
      members false { here with scopes := some scopes } after := by
  have colon : ∀ cs, skipBlank (':' :: cs) = ':' :: cs := fun _ => rfl
  refine members_member first ?_ (by rw [List.length_cons, List.length_append]; omega)
  rw [member, string_writeText]
  simp [colon, missing, strings_write, bind, Except.bind]

theorem toList_write_pair (first second : String × Json) (after : List Char) :
    (write (.object [first, second])).toList ++ after =
      '\x7b' :: (comma true ++ ((writeText first.1).toList ++ ':' :: ((write first.2).toList ++
        (comma false ++ ((writeText second.1).toList ++ ':' :: ((write second.2).toList ++
          '\x7d' :: after)))))) := by
  simp [write, writeMembers, comma, String.toList_append]

/-- The object of a token is read as its element, whatever comes behind it. -/
theorem exists_members_of_isObject (object : t.IsObject value) (after : List Char) :
    ∃ body, (write value).toList ++ after = '\x7b' :: body ∧ after.length ≤ body.length ∧
      Element.members true {} body = .ok (t.element, after) := by
  rcases object with rfl | rfl
  · refine ⟨_, toList_write_pair _ _ after, ?_, ?_⟩
    · simp only [List.length_append, List.length_cons]
      omega
    · simp only [tokenMember, scopesMember]
      rw [Element.members_token true rfl, Element.members_scopes false rfl, Element.members_close]
      rfl
  · refine ⟨_, toList_write_pair _ _ after, ?_, ?_⟩
    · simp only [List.length_append, List.length_cons]
      omega
    · simp only [tokenMember, scopesMember]
      rw [Element.members_scopes true rfl, Element.members_token false rfl, Element.members_close]
      rfl

/-- In front of an object the elements are that one and those behind it. -/
theorem Element.tail_brace (first : Bool) (body : List Char) :
    Element.tail first (comma first ++ '\x7b' :: body) =
      match Element.members true {} body with
      | .ok (element, rest) =>
          if rest.length < (comma first ++ '\x7b' :: body).length then do
            let (more, after) ← Element.tail false rest
            return (element :: more, after)
          else .error .malformed
      | .error f => .error f := by
  rw [tail]
  cases first <;> rfl

/-- One object of the array is read, whatever comes behind it. -/
theorem Element.tail_object (first : Bool) (object : t.IsObject value) (after : List Char) :
    Element.tail first (comma first ++ ((write value).toList ++ after)) = do
      let (more, rest) ← Element.tail false after
      return (t.element :: more, rest) := by
  obtain ⟨body, written, shorter, read⟩ := exists_members_of_isObject object after
  have less : after.length < (comma first ++ '\x7b' :: body).length := by
    rw [List.length_append, List.length_cons]
    omega
  rw [written, tail_brace, read]
  exact if_pos less

variable {form : ScopedToken → Json}

theorem Element.tail_others (objects : ∀ t ∈ tokens, t.IsObject (form t)) (after : List Char) :
    Element.tail false
        ((tokens.map fun t => (write (form t)).toList).flatMap (',' :: ·) ++ ']' :: after) =
      .ok (tokens.map element, after) := by
  induction tokens with
  | nil =>
      rw [List.map_nil, List.flatMap_nil, List.nil_append, tail]
      rfl
  | cons t rest ih =>
      obtain ⟨object, others⟩ := List.forall_mem_cons.mp objects
      have step := Element.tail_object false object
        ((rest.map fun t => (write (form t)).toList).flatMap (',' :: ·) ++ ']' :: after)
      rw [ih others] at step
      rw [List.map_cons, List.flatMap_cons, List.append_assoc, List.cons_append]
      exact step

/-- A written array of token objects is read as their elements. -/
theorem Element.readAll_write (present : tokens ≠ [])
    (objects : ∀ t ∈ tokens, t.IsObject (form t)) :
    Element.readAll (write (.list (tokens.map form))).toList = .ok (tokens.map element) := by
  obtain ⟨t, rest, rfl⟩ := List.exists_cons_of_ne_nil present
  obtain ⟨object, others⟩ := List.forall_mem_cons.mp objects
  have step := Element.tail_object true object
    ((rest.map fun t => (write (form t)).toList).flatMap (',' :: ·) ++ [']'])
  rw [Element.tail_others others []] at step
  rw [← List.append_nil (write _).toList, toList_write_list, List.map_map, List.map_cons,
    joinWith_cons, List.append_assoc, Element.readAll]
  refine (congrArg (· >>= _) step).trans ?_
  rfl

/-- The text of a list has no blanks around it. -/
theorem trim_write_list (items : List Json) :
    trim (write (.list items)).toList = (write (.list items)).toList := by
  rw [← List.append_nil (write _).toList, toList_write_list, trim_eq_self_iff]
  constructor
  · rfl
  · rw [List.reverse_cons, List.reverse_append]
    rfl

theorem readAll_write_objects (sound : Sound tokens)
    (objects : ∀ t ∈ tokens, t.IsObject (form t)) :
    readAll (write (.list (tokens.map form))) = .ok tokens := by
  have elements := Element.readAll_write sound.present objects
  obtain ⟨rest, opened⟩ : ∃ rest, (write (.list (tokens.map form))).toList = '[' :: rest :=
    ⟨_, (List.append_nil _).symm.trans (toList_write_list _ [])⟩
  rw [readAll, trim_write_list, opened]
  rw [opened] at elements
  obtain ⟨t, others, rfl⟩ := List.exists_cons_of_ne_nil sound.present
  have read := ofElements_fresh (fresh_iff_sound.mpr sound).1
  rw [List.map_cons] at read
  simp only [readJson, elements, List.map_cons]
  exact read

/-! ## The entry form -/

/-- The separators of the entry form stand in no token and no scope, and the text does not open
like JSON. -/
structure IsPlain (tokens : List ScopedToken) : Prop where
  token : ∀ t ∈ tokens, ';' ∉ t.token.toList ∧ '=' ∉ t.token.toList
  opening : ∀ t ∈ tokens.head?,
    t.token.toList.head? ≠ some '[' ∧ t.token.toList.head? ≠ some '\x7b'
  scopes : ∀ t ∈ tokens, ∀ scope ∈ t.scopes, ';' ∉ scope.toList ∧ ',' ∉ scope.toList

instance (tokens : List ScopedToken) : Decidable (IsPlain tokens) :=
  decidable_of_iff ((∀ t ∈ tokens, ';' ∉ t.token.toList ∧ '=' ∉ t.token.toList) ∧
      (∀ t ∈ tokens.head?,
        t.token.toList.head? ≠ some '[' ∧ t.token.toList.head? ≠ some '\x7b') ∧
      ∀ t ∈ tokens, ∀ scope ∈ t.scopes, ';' ∉ scope.toList ∧ ',' ∉ scope.toList)
    ⟨fun ⟨token, opening, scopes⟩ => ⟨token, opening, scopes⟩,
      fun ⟨token, opening, scopes⟩ => ⟨token, opening, scopes⟩⟩

def entry (t : ScopedToken) : List Char :=
  t.token.toList ++ '=' :: joinWith ',' (t.scopes.map String.toList)

theorem toList_writeEntries (tokens : List ScopedToken) :
    (writeEntries tokens).toList = joinWith ';' (tokens.map entry) := by
  have scopes : ∀ names : List String,
      (",".intercalate names).toList = joinWith ',' (names.map String.toList) :=
    toList_intercalate ','
  have entries : ∀ names : List String,
      (";".intercalate names).toList = joinWith ';' (names.map String.toList) :=
    toList_intercalate ';'
  rw [writeEntries, entries, List.map_map]
  congr 2
  funext t
  simp [entry, scopes, String.toList_append]

/-- The entry of a clean token without separators is a segment between semicolons. -/
theorem isSegment_entry (clean : t.Clean) (plain : ';' ∉ t.token.toList)
    (plainScopes : ∀ scope ∈ t.scopes, ';' ∉ scope.toList) : IsSegment ';' t.entry := by
  have token := isTrimmed_iff.mp clean.token
  have scopes := trim_joinWith ',' (mt List.map_eq_nil_iff.mp clean.granted)
    (List.forall_mem_map.mpr fun scope member => isTrimmed_iff.mp (clean.scopes scope member))
  refine ⟨?_, trim_append_cons token scopes '=', List.append_ne_nil_of_left_ne_nil token.2 _⟩
  have free : ';' ∉ joinWith ',' (t.scopes.map String.toList) :=
    not_mem_joinWith (by decide) (List.forall_mem_map.mpr plainScopes)
  rw [entry, List.mem_append, List.mem_cons]
  rintro (inToken | same | inScopes)
  · exact plain inToken
  · exact absurd same (by decide)
  · exact free inScopes

theorem segments_scopes (clean : t.Clean) (plain : ∀ scope ∈ t.scopes, ',' ∉ scope.toList) :
    (segments ',' (joinWith ',' (t.scopes.map String.toList))).map String.ofList = t.scopes := by
  have back : String.ofList ∘ String.toList = id := funext fun _ => String.ofList_toList
  rw [segments_joinWith, List.map_map, back, List.map_id]
  refine List.forall_mem_map.mpr fun scope member => ?_
  obtain ⟨trimmed, filled⟩ := isTrimmed_iff.mp (clean.scopes scope member)
  exact ⟨plain scope member, trimmed, filled⟩

theorem ofEntries_fresh (fresh : Fresh seen tokens)
    (noAssignment : ∀ t ∈ tokens, '=' ∉ t.token.toList)
    (plain : ∀ t ∈ tokens, ∀ scope ∈ t.scopes, ',' ∉ scope.toList) :
    ofEntries seen (tokens.map entry) = .ok tokens := by
  induction tokens generalizing seen with
  | nil => rfl
  | cons t rest ih =>
      obtain ⟨clean, new, later⟩ := fresh_cons_iff.mp fresh
      obtain ⟨filled, unseen, granted⟩ := clean.passes new
      rw [List.forall_mem_cons] at noAssignment plain
      have cut : cutOnce '=' t.entry =
          some (t.token.toList, joinWith ',' (t.scopes.map String.toList)) :=
        cutOnce_append noAssignment.1 _
      simp only [List.map_cons, ofEntries, cut, ofList_trim clean.token, if_neg filled,
        if_neg unseen, segments_scopes clean plain.1, if_neg granted,
        ih later noAssignment.2 plain.2]
      exact congrArg (fun t => Except.ok (t :: rest)) clean.eq_mk

/-- The text opens with the first character of the first token. -/
theorem exists_opening_writeEntries (sound : Sound tokens) (plain : IsPlain tokens) :
    ∃ c rest, (writeEntries tokens).toList = c :: rest ∧ c ≠ '[' ∧ c ≠ '\x7b' := by
  obtain ⟨t, others, rfl⟩ := List.exists_cons_of_ne_nil sound.present
  obtain ⟨clean, _⟩ := List.forall_mem_cons.mp sound.clean
  obtain ⟨c, letters, shape⟩ := List.exists_cons_of_ne_nil (isTrimmed_iff.mp clean.token).2
  have opening := plain.opening t rfl
  rw [shape, List.head?_cons] at opening
  rw [toList_writeEntries, List.map_cons, joinWith_cons, entry, shape]
  exact ⟨c, _, rfl, fun same => opening.1 (congrArg some same),
    fun same => opening.2 (congrArg some same)⟩

theorem readAll_writeEntries (sound : Sound tokens) (plain : IsPlain tokens) :
    readAll (writeEntries tokens) = .ok tokens := by
  have segment : ∀ part ∈ tokens.map entry, IsSegment ';' part :=
    List.forall_mem_map.mpr fun t member => isSegment_entry (sound.clean t member)
      (plain.token t member).1 fun scope inScopes => (plain.scopes t member scope inScopes).1
  have trimmed : trim (writeEntries tokens).toList = (writeEntries tokens).toList := by
    rw [toList_writeEntries]
    exact (trim_joinWith ';' (mt List.map_eq_nil_iff.mp sound.present) fun part member =>
      ⟨(segment part member).trimmed, (segment part member).filled⟩).1
  have entries : readEntries (writeEntries tokens).toList = .ok tokens := by
    have read := ofEntries_fresh (fresh_iff_sound.mpr sound).1
      (fun t member => (plain.token t member).2)
      (fun t member scope inScopes => (plain.scopes t member scope inScopes).2)
    have filled : ¬tokens.isEmpty = true := by
      rw [List.isEmpty_iff]
      exact sound.present
    rw [readEntries, toList_writeEntries, segments_joinWith segment, read]
    exact if_neg filled
  obtain ⟨c, rest, opened, noList, noObject⟩ := exists_opening_writeEntries sound plain
  rw [readAll, trimmed]
  rw [opened] at entries ⊢
  split
  next same => exact absurd (List.cons.inj same).1 noList
  next same => exact absurd (List.cons.inj same).1 noObject
  next => exact entries

/-! ## Both directions -/

/-- What is read from a text is sound.  A sound list is read back from its JSON form, and from its
entry form if that has no separators inside. -/
theorem readAll_round_trip (tokens : List ScopedToken) :
    (∀ raw, readAll raw = .ok tokens → Sound tokens) ∧
      (Sound tokens →
        (∀ form : ScopedToken → Json, (∀ t ∈ tokens, t.IsObject (form t)) →
          readAll (write (.list (tokens.map form))) = .ok tokens) ∧
        readAll (writeJson tokens) = .ok tokens ∧
        (IsPlain tokens → readAll (writeEntries tokens) = .ok tokens)) :=
  ⟨fun _ => sound_of_readAll, fun sound => ⟨fun _ => readAll_write_objects sound,
    readAll_write_objects sound fun t member => isObject_toJson t (sound.clean t member).user,
    readAll_writeEntries sound⟩⟩

/-- Two tokens, one of them with a scope that holds an equals sign. -/
theorem readAll_round_trip_two :
    let tokens : List ScopedToken := [⟨"α b", ["v3:read", "x=y"], none⟩, ⟨"[b", ["w"], none⟩]
    Sound tokens ∧ IsPlain tokens ∧ writeEntries tokens = "α b=v3:read,x=y;[b=w" ∧
      readAll (writeJson tokens) = .ok tokens ∧ readAll (writeEntries tokens) = .ok tokens := by
  intro tokens
  have sound : Sound tokens := by decide +kernel
  have plain : IsPlain tokens := by decide +kernel
  obtain ⟨_, json, entries⟩ := (readAll_round_trip tokens).2 sound
  exact ⟨(readAll_round_trip tokens).1 _ json, plain, by decide +kernel, json, entries plain⟩

end LayeredConfig.ScopedToken
