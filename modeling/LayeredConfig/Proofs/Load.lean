import LayeredConfig.Proofs.Credentials
import LayeredConfig.Proofs.HlsRoot
import LayeredConfig.Proofs.Registry
import LayeredConfig.Proofs.VariableLayer

/-!
# The stages of a load

A load that succeeds went through all of its stages.  Each stage hands something
on to the next one, and each changes few leaves of the configuration.

Main statements: `Loader.exists_of_load`, the stages of a successful load;
`Loader.leaf_of_yields_settle`, what comes behind the layers leaves most leaves alone.
-/

namespace LayeredConfig

open Text Reading Success

theorem Run.result_andThen {α β : Type} {r : Run α} {next : α → Run β} {b : β} :
    (r.andThen next).result = .ok b ↔ ∃ a, r.result = .ok a ∧ (next a).result = .ok b := by
  unfold Run.andThen
  split
  next f failed => simp [failed]
  next a done => simp [done]

theorem Run.result_within {α : Type} {r : Run α} {stage : Stage} {a : α} :
    (r.within stage).result = .ok a ↔ r.result = .ok a := by
  simp [Run.within]

theorem Run.asked_andThen {α β : Type} {r : Run α} {a : α} (first : r.result = .ok a)
    (next : α → Run β) : (r.andThen next).asked = r.asked ++ (next a).asked := by
  unfold Run.andThen
  rw [first]

namespace Loader

variable {l : Loader} {env : Environment} {now : String} {d : Disk}

/-! ## Taking a load apart -/

/-- The run up to the root of the live stream. -/
def front (l : Loader) (env : Environment) (d : Disk) :
    Run (Layered × Option Presence × HlsRoot.Inputs) :=
  (l.prepare d env.listing).run env.get?

/-- The run behind the root of the live stream, on the disk that the search for it left. -/
def settling (l : Loader) (env : Environment) (after : Disk) (layered : Layered)
    (presence : Option Presence) (root : HlsRoot.Resolution) : Run (HlsRoot.Resolution × Config) :=
  ((do return (root, ← l.settle after env.listing presence layered root.root) :
    Reading (HlsRoot.Resolution × Config))).run env.get?

/-- The run from the front to the settled configuration. -/
def finding (l : Loader) (env : Environment) (now : String) (d : Disk)
    (given : Layered × Option Presence × HlsRoot.Inputs) : Run (HlsRoot.Resolution × Config) :=
  (((HlsRoot.resolve d now given.2.2).1.within .hlsRoot).within .paths).andThen
    (l.settling env (HlsRoot.resolve d now given.2.2).2 given.1 given.2.1)

def settled (l : Loader) (env : Environment) (now : String) (d : Disk) :
    Run (HlsRoot.Resolution × Config) :=
  (l.front env d).andThen (l.finding env now d)

/-- The report of a load and its result. -/
def closing (l : Loader) (env : Environment) (asked : List String)
    (given : HlsRoot.Resolution × Config) : Run Loaded :=
  ((do
    let unknown ← l.finish env.listing asked given.2
    return { config := given.2, unknown, root := given.1
             asked := asked.eraseDups.mergeSort (· ≤ ·) } : Reading Loaded)).run env.get?

theorem load_eq_andThen :
    (l.load env now d).1 =
      (l.settled env now d).andThen (l.closing env (l.settled env now d).asked) := by
  unfold load settled front
  simp only
  split
  next f failed => simp [Run.andThen, failed]
  next layered presence inputs prepared =>
    have same : ((l.prepare d env.listing).run env.get?).andThen (l.finding env now d) =
        ((l.prepare d env.listing).run env.get?).andThen
          fun _ => l.finding env now d (layered, presence, inputs) := by
      unfold Run.andThen
      rw [prepared]
    rw [same]
    rfl

/-- A load succeeds if the run up to the settled configuration does and its report and rules too. -/
theorem result_load {loaded : Loaded} :
    (l.load env now d).1.result = .ok loaded ↔
      (l.settled env now d).result = .ok (loaded.root, loaded.config) ∧
        Yields env.get? (l.finish env.listing (l.settled env now d).asked loaded.config)
          loaded.unknown ∧
        loaded.asked = (l.settled env now d).asked.eraseDups.mergeSort (· ≤ ·) := by
  rw [load_eq_andThen, Run.result_andThen]
  constructor
  · rintro ⟨⟨root, config⟩, wasSettled, closed⟩
    obtain ⟨unknown, finished, result⟩ := yields_bind.mp closed
    cases yields_pure.mp result
    exact ⟨wasSettled, finished, rfl⟩
  · rintro ⟨wasSettled, finished, asked⟩
    refine ⟨_, wasSettled, yields_bind.mpr ⟨_, finished, yields_pure.mpr ?_⟩⟩
    rw [← asked]

theorem exists_load_iff : (∃ loaded, (l.load env now d).1.result = .ok loaded) ↔
    ∃ root config, (l.settled env now d).result = .ok (root, config) ∧
      ∃ unknown, Yields env.get? (l.finish env.listing (l.settled env now d).asked config)
        unknown := by
  constructor
  · rintro ⟨loaded, success⟩
    obtain ⟨wasSettled, finished, _⟩ := result_load.mp success
    exact ⟨_, _, wasSettled, _, finished⟩
  · rintro ⟨root, config, wasSettled, unknown, finished⟩
    exact ⟨⟨config, _, unknown, root⟩, result_load.mpr ⟨wasSettled, finished, rfl⟩⟩

theorem result_settled {root : HlsRoot.Resolution} {config : Config} :
    (l.settled env now d).result = .ok (root, config) ↔
      ∃ layered presence inputs,
        Yields env.get? (l.prepare d env.listing) (layered, presence, inputs) ∧
          (HlsRoot.resolve d now inputs).1.result = .ok root ∧
            Yields env.get? (l.settle (HlsRoot.resolve d now inputs).2 env.listing presence layered
              root.root) config := by
  rw [settled, Run.result_andThen]
  constructor
  · rintro ⟨⟨layered, presence, inputs⟩, prepared, wasFound⟩
    obtain ⟨found, resolved, rest⟩ := Run.result_andThen.mp wasFound
    rw [Run.result_within, Run.result_within] at resolved
    obtain ⟨config', settles, same⟩ := yields_bind.mp rest
    cases yields_pure.mp same
    exact ⟨layered, presence, inputs, prepared, resolved, settles⟩
  · rintro ⟨layered, presence, inputs, prepared, resolved, settles⟩
    refine ⟨_, prepared, Run.result_andThen.mpr ⟨root, ?_, ?_⟩⟩
    · rw [Run.result_within, Run.result_within, resolved]
    · exact yields_bind.mpr ⟨config, settles, yields_pure.mpr rfl⟩

/-- The search for the root looks nothing up, so the names are those of the stages around it. -/
theorem asked_settled {layered : Layered} {presence : Option Presence} {inputs : HlsRoot.Inputs}
    {root : HlsRoot.Resolution} {config : Config}
    (prepared : Yields env.get? (l.prepare d env.listing) (layered, presence, inputs))
    (resolved : (HlsRoot.resolve d now inputs).1.result = .ok root)
    (settles : Yields env.get? (l.settle (HlsRoot.resolve d now inputs).2 env.listing presence
      layered root.root) config) :
    (l.settled env now d).asked =
      ((l.prepare d env.listing).run env.get?).asked ++
        ((l.settle (HlsRoot.resolve d now inputs).2 env.listing presence layered root.root).run
          env.get?).asked := by
  have start : (l.front env d).result = .ok (layered, presence, inputs) := prepared
  have searched : (((HlsRoot.resolve d now inputs).1.within .hlsRoot).within .paths).asked = [] :=
    HlsRoot.asked_resolve d now inputs
  have found : (((HlsRoot.resolve d now inputs).1.within .hlsRoot).within .paths).result =
      .ok root := by
    rw [Run.result_within, Run.result_within, resolved]
  rw [settled, Run.asked_andThen start, finding, Run.asked_andThen found, searched,
    List.nil_append, settling, asked_bind settles, asked_pure, List.append_nil]
  rfl

/-- A load shows every name that was looked up before its rules were checked. -/
theorem asked_eq_of_load {loaded : Loaded}
    (success : (l.load env now d).1.result = .ok loaded) :
    loaded.asked = (l.settled env now d).asked.eraseDups.mergeSort (· ≤ ·) :=
  (result_load.mp success).2.2

theorem exists_of_load {loaded : Loaded} (success : (l.load env now d).1.result = .ok loaded) :
    ∃ layered presence inputs,
      Yields env.get? (l.prepare d env.listing) (layered, presence, inputs) ∧
        (HlsRoot.resolve d now inputs).1.result = .ok loaded.root ∧
          Yields env.get? (l.settle (HlsRoot.resolve d now inputs).2 env.listing presence layered
            loaded.root.root) loaded.config ∧
          loaded.asked =
            (((l.prepare d env.listing).run env.get?).asked ++
              ((l.settle (HlsRoot.resolve d now inputs).2 env.listing presence layered
                loaded.root.root).run env.get?).asked).eraseDups.mergeSort (· ≤ ·) := by
  obtain ⟨wasSettled, _, asked⟩ := result_load.mp success
  obtain ⟨layered, presence, inputs, prepared, resolved, settles⟩ := result_settled.mp wasSettled
  rw [asked_settled prepared resolved settles] at asked
  exact ⟨layered, presence, inputs, prepared, resolved, settles, asked⟩

/-- The disk behind a load is that behind the search for the root. -/
theorem disk_of_load {layered : Layered} {presence : Option Presence} {inputs : HlsRoot.Inputs}
    (prepared : Yields env.get? (l.prepare d env.listing) (layered, presence, inputs)) :
    (l.load env now d).2 = (HlsRoot.resolve d now inputs).2 := by
  unfold load
  rw [Yields] at prepared
  simp only [prepared]

/-- The load reads this file; without a path it is one that sets nothing. -/
def Opens (l : Loader) (d : Disk) (f : File) : Prop :=
  match l.file with
  | none => f = .empty
  | some path => ∃ presence, openFile d path = .ok (f, presence)

/-- There is only one file that a load reads. -/
theorem Opens.unique {f g : File} (first : l.Opens d f) (second : l.Opens d g) : f = g := by
  unfold Opens at first second
  cases named : l.file with
  | none =>
      rw [named] at first second
      exact first.trans second.symm
  | some path =>
      rw [named] at first second
      obtain ⟨_, opened⟩ := first
      obtain ⟨_, opened'⟩ := second
      exact congrArg Prod.fst (Except.ok.inj (opened.symm.trans opened'))

/-- The file and the keys on record come from one text. -/
theorem exists_text_of_openFile {path : String} {f : File} {presence : Presence}
    (opened : openFile d path = .ok (f, presence)) :
    ∃ text, File.decode path text = .ok f ∧ Presence.ofText text = .ok presence := by
  obtain ⟨text, _, rest⟩ := bind_eq_ok.mp opened
  obtain ⟨p, scan, rest⟩ := bind_eq_ok.mp rest
  obtain ⟨f', decoded, same⟩ := bind_eq_ok.mp rest
  cases pure_eq_ok.mp same
  exact ⟨text, decoded, mapError_eq_ok.mp scan⟩

theorem Opens.encloses {f : File} (opened : l.Opens d f) : f.Encloses := by
  unfold Opens at opened
  split at opened
  · subst opened
    exact File.encloses_empty
  · obtain ⟨_, opened⟩ := opened
    obtain ⟨_, decoded, _⟩ := exists_text_of_openFile opened
    exact File.encloses_of_decode decoded

/-! ## The layers -/

variable {values : String → Option String}

theorem merge_empty (below : Layered) : Yields values (File.empty.merge below) below := by
  have idle : File.empty.merge below = pure below := List.foldlM_pure
  rw [idle, yields_pure]

/-- A file that is merged passed its checks; without a file there is nothing to check. -/
theorem exists_checked_of_yields_mergeFile {below merged : Layered} {presence : Option Presence}
    (run : Yields values (l.mergeFile d below) (merged, presence)) :
    ∃ f, l.Opens d f ∧ f.WellFormed ∧ (f = .empty ∨ ∃ p, Yields values (checkFile f p) ()) ∧
      Yields values (f.merge below) merged := by
  unfold mergeFile at run
  unfold Opens
  cases named : l.file with
  | none =>
      rw [named] at run
      cases yields_pure.mp run
      exact ⟨.empty, rfl, File.wellFormed_empty, Or.inl rfl, merge_empty below⟩
  | some path =>
      rw [named] at run
      obtain ⟨⟨f, scanned⟩, opened, run⟩ := yields_bind.mp run
      obtain ⟨_, checked, run⟩ := yields_bind.mp run
      obtain ⟨merged', applied, same⟩ := yields_bind.mp run
      cases yields_pure.mp same
      rw [yields_within, yields_ofExcept] at opened
      obtain ⟨_, decoded, _⟩ := exists_text_of_openFile opened
      exact ⟨f, ⟨scanned, opened⟩, File.wellFormed_of_decode decoded,
        Or.inr ⟨scanned, yields_within.mp checked⟩, yields_within.mp applied⟩

theorem eq_defaults_of_base {r : Registry} {defaults : Config} (started : base r = .ok defaults) :
    defaults = r.defaults := by
  unfold base at started
  obtain ⟨_, _, rest⟩ := bind_eq_ok.mp started
  obtain ⟨_, _, same⟩ := bind_eq_ok.mp rest
  exact (pure_eq_ok.mp same).symm

theorem exists_checked_of_yields_merge {merged : Layered} {presence : Option Presence}
    {listing : List String} (run : Yields values (l.merge d listing) (merged, presence)) :
    ∃ defaults f below, base l.registry = .ok defaults ∧ l.Opens d f ∧ f.WellFormed ∧
      (f = .empty ∨ ∃ p, Yields values (checkFile f p) ()) ∧
        Yields values (f.merge { config := defaults }) below ∧
          Yields values (VariableLayer.merge below) merged := by
  obtain ⟨_, _, run⟩ := yields_bind.mp run
  obtain ⟨defaults, started, run⟩ := yields_bind.mp run
  obtain ⟨⟨below, presence'⟩, fromFile, run⟩ := yields_bind.mp run
  obtain ⟨_, _, run⟩ := yields_bind.mp run
  obtain ⟨merged', fromVariables, same⟩ := yields_bind.mp run
  cases yields_pure.mp same
  obtain ⟨f, opened, formed, checked, applied⟩ := exists_checked_of_yields_mergeFile fromFile
  rw [yields_within, yields_ofExcept] at started
  exact ⟨defaults, f, below, started, opened, formed, checked, applied,
    yields_within.mp fromVariables⟩

theorem exists_of_yields_merge {merged : Layered} {presence : Option Presence}
    {listing : List String} (run : Yields values (l.merge d listing) (merged, presence)) :
    ∃ defaults f below, base l.registry = .ok defaults ∧ l.Opens d f ∧ f.WellFormed ∧
      Yields values (f.merge { config := defaults }) below ∧
        Yields values (VariableLayer.merge below) merged := by
  obtain ⟨defaults, f, below, started, opened, formed, _, applied⟩ :=
    exists_checked_of_yields_merge run
  exact ⟨defaults, f, below, started, opened, formed, applied⟩

/-! ## Behind the layers -/

theorem leaf_of_derive {c c' : Config} (derived : derive d c = .ok c') {s : Setting}
    (noProbe : s ≠ .ffprobeBin) (noData : s ≠ .dataDir) : c'.leaf s = c.leaf s := by
  obtain ⟨directory, _, same⟩ := bind_eq_ok.mp derived
  rw [← pure_eq_ok.mp same, Config.leaf_set_other _ _ noData, Config.leaf_set_other _ _ noProbe]

theorem directory_of_derive {c c' : Config} (derived : derive d c = .ok c') :
    DataDirectory.absolute d.workingDirectory (c .dataDir) = .ok (c' .dataDir) := by
  obtain ⟨directory, found, same⟩ := bind_eq_ok.mp derived
  rw [← pure_eq_ok.mp same, Config.set_same]
  exact found

/-- Only the paths are derived behind the layers. -/
theorem exists_merged_of_yields_prepare {layered : Layered} {presence : Option Presence}
    {inputs : HlsRoot.Inputs} {listing : List String}
    (run : Yields values (l.prepare d listing) (layered, presence, inputs)) :
    ∃ merged, Yields values (l.merge d listing) (merged, presence) ∧
      derive d merged.config = .ok layered.config ∧ layered.older = merged.older := by
  obtain ⟨⟨merged, presence'⟩, all, run⟩ := yields_bind.mp run
  obtain ⟨config, derived, run⟩ := yields_bind.mp run
  obtain ⟨inputs', _, same⟩ := yields_bind.mp run
  cases yields_pure.mp same
  rw [yields_within, yields_ofExcept] at derived
  exact ⟨merged, all, derived, rfl⟩

theorem exists_of_yields_prepare {layered : Layered} {presence : Option Presence}
    {inputs : HlsRoot.Inputs} {listing : List String}
    (run : Yields values (l.prepare d listing) (layered, presence, inputs)) :
    ∃ merged, Yields values (l.merge d listing) (merged, presence) ∧
      derive d merged.config = .ok layered.config := by
  obtain ⟨merged, all, derived, _⟩ := exists_merged_of_yields_prepare run
  exact ⟨merged, all, derived⟩

/-- What a load gives to the search for the root. -/
theorem inputs_of_yields_prepare {layered : Layered} {presence : Option Presence}
    {inputs : HlsRoot.Inputs} {listing : List String}
    (run : Yields values (l.prepare d listing) (layered, presence, inputs)) :
    inputs = { dataDirectory := layered.config .dataDir
               primary := (values HlsRoot.variableName).getD ""
               legacy := (values HlsRoot.olderVariableName).getD ""
               configured := layered.config .hlsRoot } := by
  obtain ⟨⟨_, _⟩, _, run⟩ := yields_bind.mp run
  obtain ⟨config, _, run⟩ := yields_bind.mp run
  obtain ⟨inputs', read, same⟩ := yields_bind.mp run
  cases yields_pure.mp same
  obtain ⟨primary, first, read⟩ := yields_bind.mp read
  obtain ⟨legacy, second, read⟩ := yields_bind.mp read
  rw [← yields_pure.mp read, ← yields_ask.mp first, ← yields_ask.mp second]

theorem exists_of_yields_settle {layered : Layered} {presence : Option Presence}
    {listing : List String} {root : String} {c : Config}
    (run : Yields values (l.settle d listing presence layered root) c) :
    ∃ mode config, Credentials.settle (layered.config.set .hlsRoot root) layered.older =
        .ok (mode, config) ∧ c = config.set .version l.version := by
  obtain ⟨⟨mode, config⟩, credentials, run⟩ := yields_bind.mp run
  obtain ⟨path, _, run⟩ := yields_bind.mp run
  obtain ⟨_, _, same⟩ := yields_bind.mp run
  rw [yields_within, yields_ofExcept] at credentials
  exact ⟨mode, config, credentials, (yields_pure.mp same).symm⟩

/-- The credentials, their mode, the root of the live stream and the version are settled behind the
layers, and nothing else is. -/
theorem leaf_of_yields_settle {layered : Layered} {presence : Option Presence}
    {listing : List String} {root : String} {c : Config}
    (run : Yields values (l.settle d listing presence layered root) c) {s : Setting}
    (others : s ∉ [.version, .hlsRoot, .receiverUsername, .receiverPassword, .receiverAuthMode]) :
    c.leaf s = layered.config.leaf s := by
  simp only [List.mem_cons, List.not_mem_nil, or_false, not_or] at others
  obtain ⟨noVersion, noRoot, noUsername, noPassword, noMode⟩ := others
  obtain ⟨mode, config, credentials, rfl⟩ := exists_of_yields_settle run
  obtain ⟨_, _, _, _, rfl⟩ := Credentials.settle_eq_ok.mp credentials
  rw [Config.leaf_set_other _ _ noVersion, Credentials.place, Config.leaf_set_other _ _ noPassword,
    Config.leaf_set_other _ _ noUsername, Config.leaf_set_other _ _ noMode,
    Config.leaf_set_other _ _ noRoot]

theorem root_of_yields_settle {layered : Layered} {presence : Option Presence}
    {listing : List String} {root : String} {c : Config}
    (run : Yields values (l.settle d listing presence layered root) c) : c .hlsRoot = root := by
  obtain ⟨mode, config, credentials, rfl⟩ := exists_of_yields_settle run
  obtain ⟨_, _, _, _, rfl⟩ := Credentials.settle_eq_ok.mp credentials
  rw [Config.set_other _ _ (by decide), Credentials.place, Config.set_other _ _ (by decide),
    Config.set_other _ _ (by decide), Config.set_other _ _ (by decide), Config.set_same]

theorem mode_of_yields_settle {layered : Layered} {presence : Option Presence}
    {listing : List String} {root : String} {c : Config}
    (run : Yields values (l.settle d listing presence layered root) c) :
    ∃ mode, CredentialMode.read (layered.config .receiverAuthMode) = .ok mode ∧
      c.leaf .receiverAuthMode = .text mode.name := by
  obtain ⟨mode, config, credentials, rfl⟩ := exists_of_yields_settle run
  obtain ⟨read, _, _, _, rfl⟩ := Credentials.settle_eq_ok.mp credentials
  refine ⟨mode, ?_, ?_⟩
  · rw [← read, Config.set_other _ _ (by decide)]
  · rw [Config.leaf_set_other _ _ (by decide), Credentials.place,
      Config.leaf_set_other _ _ (by decide), Config.leaf_set_other _ _ (by decide)]
    exact Config.leaf_set_same _ _ _

/-- The defaults load on their own, with the version of the loader, where the environment names
nothing but the root of the live stream. -/
theorem exists_load_defaults (env : Environment)
    (only : env.bindings = [("XG2G_HLS_ROOT", "/hls")]) :
    ∃ loaded, (load { version := "t" } env "now" {}).1.result = .ok loaded ∧
      loaded.config .version = "t" := by
  obtain ⟨bindings⟩ := env
  subst only
  obtain ⟨loaded, success, version⟩ := exists_ok_of_any
    (load { version := "t" } ⟨[("XG2G_HLS_ROOT", "/hls")]⟩ "now" {}).1.result
    (fun loaded => loaded.config .version = "t") (by decide +kernel)
  exact ⟨loaded, success, of_decide_eq_true version⟩

end Loader

end LayeredConfig
