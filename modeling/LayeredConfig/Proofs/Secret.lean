import LayeredConfig.Format
import LayeredConfig.Proofs.Config
import Mathlib.Data.List.Forall2

/-!
# What is seen of secrets

Of a secret leaf only its shape is shown: whether it is set, whether a text is
empty, and the scopes of tokens.  Of the default of a secret entry only its
presence is listed.  So two configurations that differ in secrets of one shape
are shown alike, and two registries that differ in the defaults of secret
entries are listed alike.

Main statement: `secrets_unseen`.
-/

namespace LayeredConfig

/-! ## Secret leaves -/

/-- What the mask lets through of a leaf.  An optional text that is set is a text. -/
inductive Shape where
  | unset
  | text (empty : Bool)
  /-- The scopes of each token, in order. -/
  | tokens (scopes : List (List String))
  /-- A leaf of any other kind. -/
  | other
  deriving DecidableEq, Repr

def Value.shape : Value → Shape
  | .unset => .unset
  | .text v => .text v.isEmpty
  | .tokens v => .tokens (v.map ScopedToken.scopes)
  | _ => .other

def Shape.json : Shape → Json
  | .unset => .null
  | .text empty => if empty then .text "" else Value.mask
  | .tokens scopes => .list (scopes.map fun names =>
      .object [("scopes", .list (names.map .text)), ("token", Value.mask)])
  | .other => Value.mask

/-- A masked leaf is a function of its shape. -/
theorem Value.masked_eq_json_shape (v : Value) : v.masked = v.shape.json := by
  cases v with
  | tokens v =>
      rw [masked, shape, Shape.json, List.map_map]
      rfl
  | _ => rfl

/-- Two configurations with the same leaves, but for secret ones, whose shapes are the same. -/
structure Config.AlikeButSecrets (r : Registry) (c c' : Config) : Prop where
  plain : ∀ s, r.isSecret s = false → c.leaf s = c'.leaf s
  secret : ∀ s, r.isSecret s = true → (c.leaf s).shape = (c'.leaf s).shape

namespace ConfigTree

variable {r : Registry} {c c' : Config}

theorem shown_congr (alike : c.AlikeButSecrets r c') (s : Setting) :
    shown r c s = shown r c' s := by
  unfold shown
  cases secret : r.isSecret s with
  | true =>
      rw [if_pos rfl, if_pos rfl, Value.masked_eq_json_shape, alike.secret s secret,
        ← Value.masked_eq_json_shape]
  | false =>
      rw [alike.plain s secret]

theorem ofConfig_congr (alike : c.AlikeButSecrets r c') : ofConfig r c = ofConfig r c' := by
  have same : shown r c = shown r c' := funext (shown_congr alike)
  unfold ofConfig members
  rw [same]

theorem render_congr (alike : c.AlikeButSecrets r c') (format : ConfigFormat) :
    render r c format = render r c' format := by
  cases format <;> simp only [render, ofConfig_congr alike]

end ConfigTree

/-- One secret leaf changes to another of its shape. -/
theorem Config.AlikeButSecrets.put {r : Registry} {c c' : Config}
    (alike : c.AlikeButSecrets r c') {s : Setting} (secret : r.isSecret s = true) {v v' : Value}
    (fits : v.IsOf s.kind) (fits' : v'.IsOf s.kind) (same : v.shape = v'.shape) :
    (c.put s v).AlikeButSecrets r (c'.put s v') := by
  constructor
  · intro t plain
    have differ : t ≠ s := by
      rintro rfl
      exact Bool.noConfusion (plain.symm.trans secret)
    rw [leaf_put_other c v differ, leaf_put_other c' v' differ, alike.plain t plain]
  · intro t hidden
    by_cases here : t = s
    · subst here
      rw [leaf_put_same c fits, leaf_put_same c' fits', same]
    · rw [leaf_put_other c v here, leaf_put_other c' v' here, alike.secret t hidden]

/-! ## Defaults of secret entries -/

/-- Two entries with the same facts, but for the defaults of secret ones, which are both there or
both missing. -/
structure Entry.AlikeButSecrets (e e' : Entry) : Prop where
  others : e' = { e with default := e'.default }
  present : e.default.isSome = e'.default.isSome
  plain : e.secret = false → e.default = e'.default

/-- Two registries whose entries, in order, differ in the defaults of secret ones alone. -/
def Registry.AlikeButSecrets (r r' : Registry) : Prop :=
  List.Forall₂ Entry.AlikeButSecrets r.entries r'.entries

namespace Registry

variable {e e' : Entry} {r r' : Registry}

theorem isListed_congr (alike : e.AlikeButSecrets e') (all : Bool) :
    isListed all e = isListed all e' := by
  rw [alike.others]
  rfl

/-- The defaults are both missing, are one and the same, or stand in secret entries. -/
theorem cases_default (alike : e.AlikeButSecrets e') :
    (e.default = e'.default ∧ e.secret = e'.secret) ∨
      e.secret = true ∧ e'.secret = true ∧ ∃ v v', e.default = some v ∧ e'.default = some v' := by
  have secrecy : e'.secret = e.secret := by rw [alike.others]
  cases secret : e.secret with
  | false => exact .inl ⟨alike.plain secret, by rw [secrecy, secret]⟩
  | true =>
      cases given : e.default with
      | none =>
          have missing : e'.default = none := by
            rw [← Option.isNone_iff_eq_none, ← Option.not_isSome, ← alike.present, given]
            rfl
          exact .inl ⟨missing.symm, by rw [secrecy, secret]⟩
      | some v =>
          obtain ⟨v', given'⟩ : ∃ v', e'.default = some v' := by
            rw [← Option.isSome_iff_exists, ← alike.present, given]
            rfl
          exact .inr ⟨rfl, by rw [secrecy, secret], v, v', rfl, given'⟩

theorem defaultText_congr (alike : e.AlikeButSecrets e') : defaultText e = defaultText e' := by
  unfold defaultText
  obtain ⟨same, secrecy⟩ | ⟨secret, secret', v, v', given, given'⟩ := cases_default alike
  · rw [same, secrecy]
  · rw [given, given', secret, secret']
    rfl

theorem entryJson_congr (alike : e.AlikeButSecrets e') : entryJson e = entryJson e' := by
  unfold entryJson
  obtain ⟨same, secrecy⟩ | ⟨secret, secret', v, v', given, given'⟩ := cases_default alike
  · rw [same, secrecy, alike.others]
    rfl
  · rw [given, given', secret, secret', alike.others]
    rfl

/-- A column that entries alike share is the same for all that is listed. -/
theorem map_filter_isListed {α : Type} {column : Entry → α}
    (shared : ∀ {e e' : Entry}, e.AlikeButSecrets e' → column e = column e')
    (alike : r.AlikeButSecrets r') (all : Bool) :
    (r.entries.filter (isListed all)).map column =
      (r'.entries.filter (isListed all)).map column := by
  have listed : List.Forall₂ Entry.AlikeButSecrets (r.entries.filter (isListed all))
      (r'.entries.filter (isListed all)) := by
    refine List.rel_filter ?_ alike
    intro e e' same
    simp only [isListed_congr same all]
  rw [← List.forall₂_eq_eq_eq, List.forall₂_map_left_iff, List.forall₂_map_right_iff]
  exact listed.imp fun _ _ same => shared same

theorem text_congr (alike : r.AlikeButSecrets r') (all : Bool) : r.text all = r'.text all := by
  unfold text
  rw [map_filter_isListed _ alike]
  intro e e' alike
  rw [defaultText_congr alike, alike.others]
  rfl

theorem json_congr (alike : r.AlikeButSecrets r') (all : Bool) : r.json all = r'.json all := by
  unfold json
  rw [map_filter_isListed entryJson_congr alike]

theorem render_congr (alike : r.AlikeButSecrets r') (all : Bool) (format : ListingFormat) :
    r.render all format = r'.render all format := by
  cases format with
  | text => exact text_congr alike all
  | json => rw [render, render, json_congr alike]

end Registry

/-! ## Both -/

/-- Nothing but the shape of secrets can be told from what is shown of a configuration, and nothing
but the presence of secret defaults from the listing of the registry. -/
theorem secrets_unseen :
    (∀ (r : Registry) (c c' : Config), c.AlikeButSecrets r c' →
      ConfigTree.ofConfig r c = ConfigTree.ofConfig r c' ∧
        ∀ format, ConfigTree.render r c format = ConfigTree.render r c' format) ∧
    ∀ r r' : Registry, r.AlikeButSecrets r' →
      ∀ all format, r.render all format = r'.render all format :=
  ⟨fun _ _ _ alike => ⟨ConfigTree.ofConfig_congr alike, ConfigTree.render_congr alike⟩,
    fun _ _ alike => Registry.render_congr alike⟩

/-- Two tokens with one scope are shown alike, and so are two passwords as defaults. -/
theorem secrets_unseen_token_and_password :
    (∃ c c' : Config, c .apiTokens = [⟨"first", ["read"], none⟩] ∧
      c' .apiTokens = [⟨"second", ["read"], some "guest"⟩] ∧ c.AlikeButSecrets .builtIn c' ∧
      ∀ format, ConfigTree.render .builtIn c format = ConfigTree.render .builtIn c' format) ∧
    ∃ r r' : Registry, r ≠ r' ∧ r.AlikeButSecrets r' ∧
      ∀ all format, r.render all format = r'.render all format := by
  constructor
  · have alike : (Config.empty.put .apiTokens (.tokens [⟨"first", ["read"], none⟩])).AlikeButSecrets
        .builtIn (Config.empty.put .apiTokens (.tokens [⟨"second", ["read"], some "guest"⟩])) :=
      Config.AlikeButSecrets.put ⟨fun _ _ => rfl, fun _ _ => rfl⟩ (by decide +kernel) rfl rfl rfl
    exact ⟨_, _, rfl, rfl, alike, (secrets_unseen.1 _ _ _ alike).2⟩
  · let password (default : String) : Entry :=
      { Entry.ofSetting .receiverPassword with default := some (.text default) }
    have alike : Registry.AlikeButSecrets ⟨[password "first"]⟩ ⟨[password "second"]⟩ :=
      .cons ⟨rfl, rfl, Bool.noConfusion⟩ .nil
    exact ⟨_, _, by decide +kernel, alike, secrets_unseen.2 _ _ alike⟩

end LayeredConfig
