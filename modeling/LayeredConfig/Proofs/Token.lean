import LayeredConfig.Proofs.Holder.Unchanged
import LayeredConfig.Proofs.Source
import LayeredConfig.Proofs.Token.Reader

/-!
# The tokens of a loaded configuration

What the reader of the variable gives is well formed.  The list of the file is
taken as it stands, and so is the default of the registry.  So the tokens of a
loaded configuration are well formed if they came from the variable, and else if
the list they came from is.

Main statement: `Loader.tokens_of_load`.
-/

namespace LayeredConfig

open Text Reading Success

/-! ## Where the tokens come from -/

variable {values : String → Option String} {f : File}

def ScopedToken.variableName : String := "XG2G_API_TOKENS"

def File.tokens (f : File) : List ScopedToken :=
  match f.value (.own .apiTokens) with
  | some (.tokens list) => list
  | _ => []

/-- The file supplies its list if it holds a token. -/
theorem File.fromKey_tokens (formed : f.WellFormed) :
    Value.fromKey values f (.own .apiTokens) =
      if f.tokens = [] then none else some (.tokens f.tokens) := by
  unfold Value.fromKey tokens
  cases given : f.value (.own .apiTokens) with
  | none => rfl
  | some v =>
      have fits : Kind.Holds .tokens v := (formed _ _ given).2
      cases v with
      | tokens list => cases list <;> rfl
      | _ => exact fits.elim

/-- What the variable supplies is what is read from its text. -/
theorem Value.fromVariable_tokens :
    Value.fromVariable values .apiTokens =
      (Variable.filled values ScopedToken.variableName).bind fun raw =>
        (ScopedToken.readAll raw).toOption.map .tokens := rfl

/-- The variable counts, else the file if it holds a token. -/
theorem Source.highest_tokens (formed : f.WellFormed) :
    Source.highest values f .apiTokens =
      (Value.fromVariable values .apiTokens).or
        (if f.tokens = [] then none else some (.tokens f.tokens)) := by
  rw [highest_of_single formed (by decide) rfl, File.fromKey_tokens formed]

/-- The layer of the variables goes through only if the text of the variable can be read. -/
theorem VariableLayer.readAll_of_yields_fold {below merged : Layered}
    (run : Yields values (Setting.all.foldlM applySetting below) merged) {raw : String}
    (given : Variable.filled values ScopedToken.variableName = some raw) :
    ∃ list, ScopedToken.readAll raw = .ok list := by
  obtain ⟨_, _, step⟩ := exists_step_of_foldlM run (Setting.mem_all .apiTokens)
  rw [applySetting_eq, if_pos (by decide)] at step
  obtain ⟨_, _, step⟩ := yields_bind.mp step
  obtain ⟨_, own, _⟩ := yields_bind.mp step
  obtain ⟨_, read, _⟩ := yields_bind.mp own
  rcases Variable.yields_tokens.mp read with ⟨missing, _⟩ | ⟨raw', list, given', read, _⟩
  · cases given.symm.trans missing
  · obtain rfl := Option.some.inj (given.symm.trans given')
    exact ⟨list, read⟩

namespace Loader

variable {l : Loader} {env : Environment} {now : String} {d : Disk} {loaded : Loaded}

/-- The tokens are those of the variable, if it is set, else those of the file, if it holds any,
else the default.  They are well formed if and only if they came from the variable or the list they
came from is. -/
theorem tokens_of_load (success : (l.load env now d).1.result = .ok loaded) :
    ∃ defaults f, base l.registry = .ok defaults ∧ l.Opens d f ∧
      let given := Variable.filled env.get? ScopedToken.variableName
      let below := if f.tokens = [] then defaults .apiTokens else f.tokens
      (∀ raw, given = some raw → ScopedToken.readAll raw = .ok (loaded.config .apiTokens)) ∧
        (given = none → loaded.config .apiTokens = below) ∧
        (ScopedToken.WellFormed (loaded.config .apiTokens) ↔
          given ≠ none ∨ ScopedToken.WellFormed below) := by
  obtain ⟨layered, presence, inputs, prepared, _, settling, _⟩ := exists_of_load success
  obtain ⟨merged, all, derived⟩ := exists_of_yields_prepare prepared
  obtain ⟨defaults, f, below, started, opened, formed, fromFile, fromVariables⟩ :=
    exists_of_yields_merge all
  obtain ⟨folded, looped, tidied⟩ := yields_bind.mp fromVariables
  rw [yields_pure] at tidied
  have behind : loaded.config.leaf .apiTokens = folded.config.leaf .apiTokens := by
    rw [leaf_of_yields_settle settling (by decide), leaf_of_derive derived (by decide) (by decide),
      ← tidied]
    exact VariableLayer.at_tidy (c := .own .apiTokens) (by decide)
  have layers := Source.leaf_of_layers formed fromFile looped (s := .apiTokens) (by decide)
    (Or.inl (by decide))
  rw [Source.highest_tokens formed, Value.fromVariable_tokens, ← behind] at layers
  refine ⟨defaults, f, started, opened, ?_⟩
  intro given below
  have fallback : given = none → loaded.config .apiTokens = below := by
    intro missing
    rw [show Variable.filled env.get? ScopedToken.variableName = none from missing,
      Option.bind_none, Option.none_or] at layers
    by_cases nothing : f.tokens = []
    · rw [if_pos nothing] at layers
      rw [show below = defaults .apiTokens from if_pos nothing]
      exact Config.eq_of_leaf layers
    · rw [if_neg nothing] at layers
      rw [show below = f.tokens from if_neg nothing]
      exact Config.eq_of_leaf layers
  have counts : ∀ raw, given = some raw →
      ScopedToken.readAll raw = .ok (loaded.config .apiTokens) := by
    intro raw set
    obtain ⟨list, read⟩ := VariableLayer.readAll_of_yields_fold looped set
    rw [show Variable.filled env.get? ScopedToken.variableName = some raw from set,
      Option.bind_some, read] at layers
    have same : loaded.config .apiTokens = list := Config.eq_of_leaf layers
    rw [read, same]
  refine ⟨counts, fallback, ?_⟩
  cases source : given with
  | some raw =>
      exact iff_of_true (ScopedToken.wellFormed_of_readAll (counts raw source)) (Or.inl nofun)
  | none =>
      rw [fallback source]
      exact (or_iff_right fun set => set rfl).symm

/-- Tokens from the variable. -/
theorem tokens_of_load_entries :
    let env : Environment :=
      ⟨[("XG2G_API_TOKENS", "a=read,write;b=read"), ("XG2G_HLS_ROOT", "/hls")]⟩
    ∃ loaded, (load { version := "t" } env "now" {}).1.result = .ok loaded ∧
      loaded.config .apiTokens = [⟨"a", ["read", "write"], none⟩, ⟨"b", ["read"], none⟩] ∧
        ScopedToken.WellFormed (loaded.config .apiTokens) := by
  intro env
  obtain ⟨loaded, success⟩ := exists_ok_of_toBool (load { version := "t" } env "now" {}).1.result
    (by decide +kernel)
  obtain ⟨_, _, _, _, counts, _, sound⟩ := tokens_of_load success
  have read := counts "a=read,write;b=read" (by decide)
  refine ⟨loaded, success, ?_, sound.mpr (Or.inl (by decide))⟩
  have same : (ScopedToken.readAll "a=read,write;b=read").toOption =
      some [⟨"a", ["read", "write"], none⟩, ⟨"b", ["read"], none⟩] := by decide +kernel
  rw [read] at same
  exact Option.some.inj same

/-- A file may hold a token that is empty and grants nothing. -/
theorem exists_load_empty_token :
    let text := "api:\n  tokens:\n    - token: \"\"\n      scopes: []\n"
    let load := Loader.load { version := "t", file := some "/c.yaml" } ⟨[("XG2G_HLS_ROOT", "/hls")]⟩
      "now" { nodes := [(["c.yaml"], .file (.text text))] }
    ∃ loaded, load.1.result = .ok loaded ∧ loaded.config .apiTokens = [⟨"", [], none⟩] ∧
      ¬ScopedToken.WellFormed (loaded.config .apiTokens) := by
  obtain ⟨loaded, success, facts⟩ := exists_ok_of_any
    (load { version := "t", file := some "/c.yaml" } ⟨[("XG2G_HLS_ROOT", "/hls")]⟩ "now"
      { nodes := [(["c.yaml"],
          .file (.text "api:\n  tokens:\n    - token: \"\"\n      scopes: []\n"))] }).1.result
    (fun loaded => decide (loaded.config .apiTokens = [⟨"", [], none⟩]))
    (by
      unfold load prepare merge mergeFile openFile readFile
      simp only [Holder.readText_only]
      decide +kernel)
  have empty := of_decide_eq_true facts
  refine ⟨loaded, success, empty, ?_⟩
  rw [empty]
  decide

end Loader

end LayeredConfig
