import LayeredConfig.Proofs.Validation.Groups
import LayeredConfig.Proofs.VariableUse

/-!
# The check of a configuration

The check goes through its rules in one order and lists every violation.  So
what it lists are the breaches of the configuration, each once and in the order
of their places, and a configuration that a load gives has none.

Main statement: `breaches_listed`.
-/

namespace LayeredConfig.Validation

open Rule (range port block)

theorem passes_iff (c : Config) : check c = .ok () ↔ ∀ p v, ¬Breach c p v := by
  obtain ⟨entries, _, mem, lists⟩ := covers_rules c
  rw [check, Rule.checkAll, Rule.refuse_eq_ok_iff, ← lists, List.map_eq_nil_iff,
    List.eq_nil_iff_forall_not_mem]
  exact ⟨fun none p v breach => none (p, v) ((mem p v).mpr ⟨between_ends p, breach⟩),
    fun clean e member => clean e.1 e.2 ((mem e.1 e.2).mp member).2⟩

/-! ## Configurations without breaches -/

/-- The text names an address in particular, or a block with at least one bit that counts. -/
def Listable (text : String) : Prop :=
  ∃ b, Net.Block.read text = .ok b ∧ b.address.isUnspecified = false ∧
    ∀ n, b.bits = some n → 1 ≤ n ∧ n ≤ b.address.width

/-- What may be relied on where no rule is broken. -/
structure Sound (c : Config) : Prop where
  streamPort : 1 ≤ c .receiverStreamPort ∧ c .receiverStreamPort ≤ 65535
  epgDays : 0 ≤ c .epgDays ∧ c .epgDays ≤ 14
  epgMaxConcurrency : 1 ≤ c .epgMaxConcurrency ∧ c .epgMaxConcurrency ≤ 10
  epgTimeout : 100 ≤ c .epgTimeoutMs ∧ c .epgTimeoutMs ≤ 60000
  epgRetries : 0 ≤ c .epgRetries ∧ c .epgRetries ≤ 5
  epgFuzzyMax : 0 ≤ c .epgFuzzyMax ∧ c .epgFuzzyMax ≤ 10
  epgSource : c .epgSource = "per-service" ∨ c .epgSource = "bouquet"
  proxies : ∀ text ∈ c.proxies, Listable text
  whitelist : ∀ text ∈ c .rateLimitWhitelist, Listable text
  outboundCidrs : ∀ text ∈ c .outboundCidrs, Listable text
  certificate : c .tlsEnabled = true → Given (c .tlsCert) ∧ Given (c .tlsKey)
  https : c .tlsForceHttps = true → c .tlsEnabled = true ∨ c.proxies ≠ []

theorem within_of_clean {field : String} {value low high : Int}
    (clean : ∀ v, ¬(range field value low high).Breaks v) : low ≤ value ∧ value ≤ high := by
  by_contra outside
  exact clean ⟨field, _⟩ ⟨rfl, .range (by omega)⟩

theorem port_of_clean {field : String} {value : Int}
    (clean : ∀ v, ¬(port field value).Breaks v) : 1 ≤ value ∧ value ≤ 65535 := by
  by_contra outside
  exact clean ⟨field, _⟩ ⟨rfl, .port (by omega)⟩

theorem listable_of_clean {field text : String} (clean : ∀ v, ¬(block field text).Breaks v) :
    Listable text := by
  cases read : Net.Block.read text with
  | error fault => exact absurd ⟨rfl, .block (Net.Block.read_eq_iff.mp read)⟩ (clean ⟨field, _⟩)
  | ok b => exact ⟨b, read, Net.Block.bits_of_read read⟩

theorem sound_of_clean {c : Config} (clean : ∀ p v, ¬Breach c p v) : Sound c where
  streamPort := port_of_clean (clean .receiverStreamPort)
  epgDays := within_of_clean (clean .epgDays)
  epgMaxConcurrency := within_of_clean (clean .epgMaxConcurrency)
  epgTimeout := within_of_clean (clean .epgTimeout)
  epgRetries := within_of_clean (clean .epgRetries)
  epgFuzzyMax := within_of_clean (clean .epgFuzzyMax)
  epgSource := by
    by_contra strange
    exact clean .epgSource ⟨_, _⟩ ⟨rfl, .oneOf (by simpa using strange)⟩
  proxies text member := by
    obtain ⟨i, found⟩ := List.mem_iff_getElem?.mp member
    exact listable_of_clean fun v breaks => clean (.proxy i) v ⟨text, found, breaks⟩
  whitelist text member := by
    obtain ⟨i, found⟩ := List.mem_iff_getElem?.mp member
    exact listable_of_clean fun v breaks => clean (.whitelisted i) v ⟨text, found, breaks⟩
  outboundCidrs text member := by
    obtain ⟨i, found⟩ := List.mem_iff_getElem?.mp member
    exact listable_of_clean fun v breaks => clean (.outboundCidr i) v ⟨text, found, breaks⟩
  certificate enabled :=
    ⟨by_contra fun missing => clean .tlsCertificate _ ⟨⟨enabled, missing⟩, rfl⟩,
      by_contra fun missing => clean .tlsKey _ ⟨⟨enabled, missing⟩, rfl⟩⟩
  https forced := by
    by_contra bare
    rw [not_or, Bool.not_eq_true, not_not] at bare
    exact clean .forcedHttps _ ⟨⟨forced, bare⟩, rfl⟩

theorem check_of_load {l : Loader} {env : Environment} {now : String} {d : Disk} {loaded : Loaded}
    (success : (l.load env now d).1.result = .ok loaded) : check loaded.config = .ok () := by
  obtain ⟨_, finished, _⟩ := Loader.result_load.mp success
  exact (Loader.exists_yields_finish_iff.mp ⟨_, finished⟩).2

/-! ## The whole -/

/-- The check is sound, complete and accumulating.  Its violations are the breaches of the
configuration, one for each place and in the order of the places; it passes iff there are none, and
else it fails with all of them.  A configuration that a load gives has no breaches. -/
theorem breaches_listed (c : Config) (l : Loader) (env : Environment) (now : String) (d : Disk) :
    (∃ entries : List (Place × Violation),
      entries.Pairwise (fun e e' => e.1.Before e'.1) ∧ (entries.map Prod.fst).Nodup ∧
        (∀ p v, (p, v) ∈ entries ↔ Breach c p v) ∧
          ∀ f, check c = .error f → Rule.Reports (entries.map Prod.snd) f) ∧
    (check c = .ok () ↔ ∀ p v, ¬Breach c p v) ∧
    ∀ loaded, (l.load env now d).1.result = .ok loaded →
      (∀ p v, ¬Breach loaded.config p v) ∧ Sound loaded.config := by
  refine ⟨?_, passes_iff c, fun loaded success => ?_⟩
  · obtain ⟨entries, sorted, mem, lists⟩ := covers_rules c
    refine ⟨entries, sorted, ?_, fun p v => (mem p v).trans (and_iff_right (between_ends p)), ?_⟩
    · refine List.pairwise_map.mpr (sorted.imp fun before same => ?_)
      exact Place.Before.irrefl _ (same ▸ before)
    · intro f refused
      rw [lists]
      exact Rule.reports_of_refuse refused
  · have clean := (passes_iff loaded.config).mp (check_of_load success)
    exact ⟨clean, sound_of_clean clean⟩

/-- An id that stands three times is reported at both repetitions, and what the defaults load to is
sound. -/
theorem breaches_listed_repeated :
    let root : LibraryRoot := { id := "a", path := "/a", type := "local" }
    let c := Config.empty.set .libraryRoots [root, root, root]
    let load := Loader.load { version := "t" } ⟨[("XG2G_HLS_ROOT", "/hls")]⟩ "now" {}
    let repeated : Violation := ⟨"library.roots", "duplicate root id \"a\""⟩
    Breach c (.libraryRoot 1 .id) repeated ∧ Breach c (.libraryRoot 2 .id) repeated ∧
      (∃ f, check c = .error f ∧ f.failureClass = .validation ∧ f.field = none) ∧
        ∃ loaded, load.1.result = .ok loaded ∧ Sound loaded.config := by
  intro root c
  let repeated : Violation := ⟨"library.roots", "duplicate root id \"a\""⟩
  obtain ⟨⟨entries, _, _, mem, reports⟩, passes, loads⟩ :=
    breaches_listed c { version := "t" } ⟨[("XG2G_HLS_ROOT", "/hls")]⟩ "now" {}
  have roots : c .libraryRoots = [root, root, root] := Config.set_same ..
  have filled : ¬Blank root.id := by
    rw [← isFilled_eq_true_iff]
    decide
  have message : "duplicate root id \"a\"" = "duplicate root id " ++ Text.quoted root.id := by
    decide +kernel
  have said : repeated = ⟨"library.roots", "duplicate root id " ++ Text.quoted root.id⟩ :=
    congrArg (Violation.mk "library.roots") message
  have second : Breach c (.libraryRoot 1 .id) repeated := by
    refine ⟨root, by rw [roots]; rfl, .inr ⟨filled, ⟨root, ?_, rfl⟩, said⟩⟩
    rw [roots]
    exact List.mem_cons_self
  have third : Breach c (.libraryRoot 2 .id) repeated := by
    refine ⟨root, by rw [roots]; rfl, .inr ⟨filled, ⟨root, ?_, rfl⟩, said⟩⟩
    rw [roots]
    exact List.mem_cons_self
  refine ⟨second, third, ?_, ?_⟩
  · cases checked : check c with
    | ok => exact absurd second (passes.mp checked _ _)
    | error f =>
        have report := reports f checked
        refine ⟨f, rfl, report.failureClass, ?_⟩
        cases named : f.field with
        | none => rfl
        | some key =>
            obtain ⟨v, single, _⟩ := (report.field key).mp named
            obtain ⟨e, only, _⟩ := List.map_eq_singleton_iff.mp single
            rw [← mem, only, List.mem_singleton] at second third
            exact nomatch second.trans third.symm
  · obtain ⟨loaded, success, _⟩ := Loader.exists_load_defaults _ rfl
    exact ⟨loaded, success, (loads loaded success).2⟩

end LayeredConfig.Validation
