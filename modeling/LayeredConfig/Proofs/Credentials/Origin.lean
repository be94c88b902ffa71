import LayeredConfig.Proofs.Load

/-!
# Where the credentials of a load come from

The receiver's user name and password are read under two names each, in the file
and in a variable.  The layers keep the two pairs apart: what the older names
say never reaches the places of the own ones.  So the mode, which settles the
credentials behind the layers, has two pairs to choose from, and it takes one of
them as a whole.

Main statement: `Loader.credentials_of_load`.
-/

namespace LayeredConfig

open Text Reading Success

/-! ## The two pairs -/

def File.text? (f : File) (k : FileKey) : Option String :=
  match f.value k with
  | some (.text raw) => some raw
  | _ => none

namespace Credentials

/-- One half of a pair: the text of the variable, unless it is missing or blank, else that of the
key in the file with its references replaced, else the text below both. -/
def half (values : String → Option String) (f : File) (below : String) (k : FileKey)
    (name : String) : String :=
  ((Variable.filled values name).or ((f.text? k).map (expanded values))).getD below

/-- The pair under the own names, on top of another. -/
def ofOwnNames (values : String → Option String) (f : File) (below : Credentials) : Credentials :=
  { username := half values f below.username (.own .receiverUsername) "XG2G_E2_USER"
    password := half values f below.password (.own .receiverPassword) "XG2G_E2_PASS" }

def ofOlderNames (values : String → Option String) (f : File) : Credentials :=
  { username := half values f "" (.older .receiverUsername) "XG2G_OWI_USER"
    password := half values f "" (.older .receiverPassword) "XG2G_OWI_PASS" }

/-- The keys of the credentials with their variables. -/
def places : List (FileKey × String) :=
  [(.own .receiverUsername, "XG2G_E2_USER"), (.own .receiverPassword, "XG2G_E2_PASS"),
   (.older .receiverUsername, "XG2G_OWI_USER"), (.older .receiverPassword, "XG2G_OWI_PASS")]

theorem ofConfig_eq {c : Config} {pair : Credentials}
    (username : c.leaf .receiverUsername = .text pair.username)
    (password : c.leaf .receiverPassword = .text pair.password) : ofConfig c = pair := by
  rw [ofConfig, Config.eq_of_leaf (v := pair.username) username,
    Config.eq_of_leaf (v := pair.password) password]

/-! ## The layers keep them apart -/

variable {values : String → Option String} {f : File} {k : FileKey} {name : String}

/-- Only its own variable reaches the place of a credential. -/
theorem supply_of_mem_places (member : (k, name) ∈ places) :
    VariableLayer.supply values k.setting k = (Variable.filled values name).map .text := by
  rw [Option.map_eq_bind]
  simp only [places, List.mem_cons, Prod.mk.injEq, List.not_mem_nil, or_false] at member
  rcases member with ⟨rfl, rfl⟩ | ⟨rfl, rfl⟩ | ⟨rfl, rfl⟩ | ⟨rfl, rfl⟩
  · exact Option.or_none
  · exact Option.or_none
  · exact Option.none_or
  · exact Option.none_or

/-- Only its own key reaches the place of a credential. -/
theorem reaching_of_mem_places (member : (k, name) ∈ places) : k.reaching = [k] := by
  have each : ∀ place ∈ places, place.1.reaching = [place.1] := by decide +kernel
  exact each (k, name) member

theorem lay_of_mem_places (formed : f.WellFormed) (member : (k, name) ∈ places) (below : String) :
    f.lay values (.text below) k = .text (((f.text? k).map (expanded values)).getD below) := by
  have each : ∀ place ∈ places, place.1.setting.form = .asHeld ∧ place.1.setting.kind = .text ∧
      place.1.setting ≠ .receiverAuthMode ∧ place.1.setting.isExpanded = true := by decide
  obtain ⟨form, kind, noMode, refers⟩ := each (k, name) member
  unfold File.lay Value.fromKey File.text?
  cases given : f.value k with
  | none => rfl
  | some v =>
      have fits : k.setting.Admits v := (formed k v given).2
      simp only [Setting.Admits, form, kind] at fits
      obtain ⟨raw, rfl⟩ : ∃ raw, v = .text raw := by
        cases v <;> first | contradiction | exact ⟨_, rfl⟩
      have noDuration : k.setting.kind ≠ .duration := fun timed =>
        Kind.noConfusion (kind.symm.trans timed)
      rw [Option.bind_some, Value.ofFile_text noDuration, if_neg noMode, if_pos refers]
      rfl

/-- Behind the layers the place of a credential holds its half of the pair. -/
theorem at_of_layers (formed : f.WellFormed) (member : (k, name) ∈ places)
    {start below merged : Layered} (fromFile : Yields values (f.merge start) below)
    (fromVariables : Yields values (VariableLayer.merge below) merged) {text : String}
    (held : start.at k = .text text) : merged.at k = .text (half values f text k name) := by
  have each : ∀ place ∈ places, place.1.setting ≠ .metricsEnabled ∧ place.1.setting ≠ .hlsRoot ∧
      place.1.setting ≠ .receiverAuthMode := by decide
  obtain ⟨noSwitch, counted, noMode⟩ := each (k, name) member
  have fromKey := File.at_of_yields_merge formed fromFile k
  rw [reaching_of_mem_places member, List.foldl_cons, List.foldl_nil, held,
    lay_of_mem_places formed member] at fromKey
  rw [VariableLayer.at_of_yields_merge fromVariables noSwitch counted noMode, fromKey,
    supply_of_mem_places member, half, Option.getD_or, Option.getD_map]

/-- Behind the layers the configuration holds the own pair, and the older one stands beside it. -/
theorem pairs_of_layers (formed : f.WellFormed) {defaults : Config} {below merged : Layered}
    (fromFile : Yields values (f.merge { config := defaults }) below)
    (fromVariables : Yields values (VariableLayer.merge below) merged) :
    ofConfig merged.config = ofOwnNames values f (ofConfig defaults) ∧
      merged.older = ofOlderNames values f := by
  have each (k : FileKey) (name : String) (member : (k, name) ∈ places) {text : String}
      (held : Layered.at { config := defaults } k = .text text) :
      merged.at k = .text (half values f text k name) :=
    at_of_layers formed member fromFile fromVariables held
  have username := each (.own .receiverUsername) "XG2G_E2_USER" (by decide) rfl
  have password := each (.own .receiverPassword) "XG2G_E2_PASS" (by decide) rfl
  have olderUsername := each (.older .receiverUsername) "XG2G_OWI_USER" (by decide) rfl
  have olderPassword := each (.older .receiverPassword) "XG2G_OWI_PASS" (by decide) rfl
  constructor
  · exact ofConfig_eq username password
  · rw [ofOlderNames, ← Value.text.inj olderUsername, ← Value.text.inj olderPassword]

end Credentials

/-! ## The pair of a load -/

namespace Loader

variable {l : Loader} {env : Environment} {now : String} {d : Disk} {loaded : Loaded}

/-- The mode of a loaded configuration chose its credentials from the two pairs, both of them
whole. -/
theorem exists_choice_of_load (success : (l.load env now d).1.result = .ok loaded) :
    ∃ f mode, l.Opens d f ∧ loaded.config .receiverAuthMode = CredentialMode.name mode ∧
      let own := Credentials.ofOwnNames env.get? f (.ofConfig l.registry.defaults)
      let older := Credentials.ofOlderNames env.get? f
      own.IsWhole ∧ older.IsWhole ∧ (mode = .none → own = {}) ∧
        Credentials.ofConfig loaded.config = mode.choose own older := by
  obtain ⟨layered, presence, inputs, prepared, _, settling, _⟩ := exists_of_load success
  obtain ⟨merged, all, derived, keptOlder⟩ := exists_merged_of_yields_prepare prepared
  obtain ⟨defaults, f, below, started, opened, formed, fromFile, fromVariables⟩ :=
    exists_of_yields_merge all
  obtain ⟨mode, config, credentials, stamped⟩ := exists_of_yields_settle settling
  obtain ⟨_, wholeOwn, wholeOlder, allowed, placed⟩ := Credentials.settle_eq_ok.mp credentials
  obtain ⟨pairOwn, pairOlder⟩ := Credentials.pairs_of_layers formed fromFile fromVariables
  have keptOwn : Credentials.ofConfig (layered.config.set .hlsRoot loaded.root.root) =
      Credentials.ofConfig merged.config :=
    Credentials.ofConfig_eq (leaf_of_derive derived (by decide) (by decide))
      (leaf_of_derive derived (by decide) (by decide))
  rw [eq_defaults_of_base started] at pairOwn
  rw [keptOwn, pairOwn] at wholeOwn allowed placed
  rw [keptOlder, pairOlder] at wholeOlder placed
  refine ⟨f, mode, opened, ?_, wholeOwn, wholeOlder, allowed, ?_⟩
  all_goals
    rw [stamped, ← placed]
    rfl

/-- The credentials of a loaded configuration are whole, and they are one of the two pairs as it
stands, or empty.  Which of them is ruled by the mode: `explicit` takes the pair under the own
names, `none` has no credentials and meets none, `inherit` takes the pair under the older names
where the other one is empty.  What nothing sets is empty, unless the registry declares a default
for it. -/
theorem credentials_of_load (success : (l.load env now d).1.result = .ok loaded) :
    ∃ f mode, l.Opens d f ∧ loaded.config .receiverAuthMode = CredentialMode.name mode ∧
      let own := Credentials.ofOwnNames env.get? f (.ofConfig l.registry.defaults)
      let older := Credentials.ofOlderNames env.get? f
      let pair := Credentials.ofConfig loaded.config
      pair.IsWhole ∧ (pair = own ∨ pair = older ∨ pair = {}) ∧
        (mode = .explicit → pair = own) ∧
        (mode = .none → own = {} ∧ pair = {}) ∧
        (mode = .inherit → pair = if own = {} then older else own) ∧
        ∀ s ∈ [Setting.receiverUsername, .receiverPassword],
          (∀ e ∈ l.registry.entries, e.setting = s → e.default = none) →
            l.registry.defaults.leaf s = .text "" := by
  obtain ⟨f, mode, opened, named, wholeOwn, wholeOlder, allowed, chosen⟩ :=
    exists_choice_of_load success
  refine ⟨f, mode, opened, named, ?_⟩
  intro own older pair
  rw [show pair = mode.choose own older from chosen]
  refine ⟨CredentialMode.isWhole_choose wholeOwn wholeOlder, mode.choose_cases own older,
    ?_, ?_, ?_, fun s isHalf bare => ?_⟩
  · rintro rfl
    rfl
  · rintro rfl
    exact ⟨allowed rfl, rfl⟩
  · rintro rfl
    exact CredentialMode.choose_inherit
  · have empty : ∀ s ∈ [Setting.receiverUsername, .receiverPassword],
        Config.empty.leaf s = .text "" := by decide
    exact (Registry.leaf_applyEntries .empty bare).trans (empty s isHalf)

/-- The pair under the older names fills in where the other one is empty. -/
theorem credentials_of_load_older :
    let env : Environment := ⟨[("XG2G_E2_AUTH_MODE", " Inherit"), ("XG2G_HLS_ROOT", "/hls"),
      ("XG2G_OWI_PASS", "secret"), ("XG2G_OWI_USER", "root")]⟩
    ∃ loaded, (load { version := "t" } env "now" {}).1.result = .ok loaded ∧
      loaded.config .receiverAuthMode = "inherit" ∧
        Credentials.ofConfig loaded.config = { username := "root", password := "secret" } := by
  intro env
  obtain ⟨loaded, success, facts⟩ := exists_ok_of_any
    (load { version := "t" } env "now" {}).1.result
    (fun loaded => decide (loaded.config .receiverAuthMode = "inherit")) (by decide +kernel)
  have mode := of_decide_eq_true facts
  obtain ⟨f, settled, opened, named, _, _, _, _, inherits, bare⟩ := credentials_of_load success
  obtain rfl : f = .empty := opened
  have noDefault : ∀ s ∈ [Setting.receiverUsername, .receiverPassword],
      ∀ e ∈ Registry.builtIn.entries, e.setting = s → e.default = none := by decide +kernel
  have nothing : Credentials.ofConfig Registry.builtIn.defaults = {} :=
    Credentials.ofConfig_eq (bare _ (by decide) (noDefault _ (by decide)))
      (bare _ (by decide) (noDefault _ (by decide)))
  rw [mode] at named
  have pair := inherits (CredentialMode.eq_of_name named.symm)
  rw [nothing] at pair
  refine ⟨loaded, success, mode, pair.trans ?_⟩
  decide +kernel

end Loader

end LayeredConfig
