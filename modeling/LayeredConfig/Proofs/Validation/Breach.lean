import LayeredConfig.Proofs.Rule
import LayeredConfig.Validation

/-!
# Breaches

What the rules of a configuration demand, rule by rule and item by item, without
the lists in which the check goes through them.  A place is a rule together with
the item of a list that it is applied to; a breach is a place where the
configuration does not do what the rule demands, with what is said of it there.

Main statement: `Place.eq_of_isSingle`, a rule that is applied once has one place.
-/

namespace LayeredConfig.Validation

open Rule (oneOf range port positive service block)

/-! ## Places -/

/-- What is demanded of a root of the library. -/
inductive RootAspect where
  | id
  | path
  | type
  deriving DecidableEq

/-- A rule, with the index of the item where it is applied to each item of a list.  The rules stand
in their order. -/
inductive Place where
  | logLevel
  | dataDirectory
  | proxy (index : Nat)
  | receiverUrl
  | receiverAuthMode
  | receiverStreamPort
  | receiverRetries
  | receiverBackoff
  | epgDays
  | epgMaxConcurrency
  | epgTimeout
  | epgRetries
  | epgFuzzyMax
  | epgSource
  | engineMode
  | engineMaxPool
  | engineGpuLimit
  | engineCpuThreshold
  | storeBackend
  | storePath
  | segmentSeconds
  | vodMaxConcurrent
  | tlsCertificate
  | tlsKey
  | forcedHttps
  | globalRate
  | authRate
  | burst
  | whitelisted (index : Nat)
  | outboundScheme (index : Nat)
  | outboundPort (index : Nat)
  | outboundCidr (index : Nat)
  | outboundTarget
  | deliveryPolicy
  | playbackPolicy
  | recordingRoot (index : Nat)
  | pathMapping (index : Nat)
  | libraryRoot (index : Nat) (aspect : RootAspect)
  | libraryPresence
  deriving DecidableEq

namespace Place

/-- The rule is applied once, not to items. -/
def isSingle : Place → Bool
  | proxy _ | whitelisted _ | outboundScheme _ | outboundPort _ | outboundCidr _ | recordingRoot _
  | pathMapping _ | libraryRoot _ _ => false
  | _ => true

theorem eq_of_isSingle {p q : Place} (single : p.isSingle = true) (same : q.ctorIdx = p.ctorIdx) :
    q = p := by
  cases p <;> first
    | contradiction
    | cases q <;> first
      | rfl
      | exact absurd same (Nat.ne_of_beq_eq_false rfl)

def index : Place → Nat
  | proxy i | whitelisted i | outboundScheme i | outboundPort i | outboundCidr i | recordingRoot i
  | pathMapping i | libraryRoot i _ => i
  | _ => 0

/-- The number of what is demanded of the item. -/
def part : Place → Nat
  | libraryRoot _ aspect => aspect.ctorIdx
  | _ => 0

/-- Rules go before items, items before what is demanded of each. -/
def Before (p q : Place) : Prop :=
  p.ctorIdx < q.ctorIdx ∨ p.ctorIdx = q.ctorIdx ∧
    (p.index < q.index ∨ p.index = q.index ∧ p.part < q.part)

theorem Before.irrefl (p : Place) : ¬p.Before p := by
  unfold Before
  omega

/-- What is demanded of one root stands in its order. -/
theorem before_libraryRoot_iff {i : Nat} {a b : RootAspect} :
    (libraryRoot i a).Before (libraryRoot i b) ↔ a.ctorIdx < b.ctorIdx := by
  have same : (libraryRoot i a).ctorIdx = (libraryRoot i b).ctorIdx := rfl
  simp [Before, index, part, same]

end Place

/-! ## What is demanded -/

/-- Nothing but blanks. -/
def Blank (text : String) : Prop := ∀ c ∈ text.toList, Text.isBlank c = true

def Given (text : Option String) : Prop := ∃ t, text = some t ∧ ¬Blank t

def Absolute (path : String) : Prop := ['/'] <+: path.toList

theorem isFilled_eq_false_iff {text : String} : isFilled text = false ↔ Blank text := by
  rw [isFilled, Bool.not_eq_false', Text.isBlankText, List.all_eq_true, Blank]

theorem isFilled_eq_true_iff {text : String} : isFilled text = true ↔ ¬Blank text := by
  rw [← isFilled_eq_false_iff, Bool.not_eq_false]

theorem isGiven_eq_true_iff {text : Option String} : isGiven text = true ↔ Given text := by
  cases text with
  | none => simp [isGiven, Given]
  | some t => simp [isGiven, Given, isFilled_eq_true_iff]

theorem isGiven_eq_false_iff {text : Option String} : isGiven text = false ↔ ¬Given text := by
  rw [← isGiven_eq_true_iff, Bool.not_eq_true]

theorem isAbsolute_eq_true_iff {path : String} : isAbsolute path = true ↔ Absolute path := by
  rw [isAbsolute, Text.startsWith_eq_true_iff, Absolute]

theorem isAbsolute_eq_false_iff {path : String} : isAbsolute path = false ↔ ¬Absolute path := by
  rw [← isAbsolute_eq_true_iff, Bool.not_eq_true]

/-- Zero, below zero, or minus infinity. -/
inductive Nonpositive : Number.Binary64 → Prop
  | infinite : Nonpositive (.infinite true)
  | negative (size : Number.Magnitude) : Nonpositive (.finite true size)
  | zero (negative : Bool) (scale : Nat) : Nonpositive (.finite negative ⟨0, scale⟩)

theorem isNonpositive_eq_true_iff {x : Number.Binary64} :
    x.isNonpositive = true ↔ Nonpositive x := by
  constructor
  · intro found
    match x with
    | .infinite true => exact .infinite
    | .finite true size => exact .negative size
    | .finite false ⟨0, scale⟩ => exact .zero false scale
    | .finite false ⟨n + 1, scale⟩ => cases found
  · rintro (_ | _ | negative)
    · rfl
    · rfl
    · exact Bool.or_true negative

/-- The id of a library root is blank, or an earlier root has it. -/
def RootId (front : List LibraryRoot) (id : String) (v : Violation) : Prop :=
  Blank id ∧ v = ⟨"library.roots", "root id cannot be empty"⟩ ∨
    ¬Blank id ∧ (∃ root ∈ front, root.id = id) ∧
      v = ⟨"library.roots", "duplicate root id " ++ Text.quoted id⟩

/-- A configuration breaks a rule at a place, and what is said of it. -/
def Breach (c : Config) : Place → Violation → Prop
  | .logLevel, v =>
      (oneOf "logLevel" (c .logLevel) ["trace", "debug", "info", "warn", "error"]).Breaks v
  | .dataDirectory, v => Blank (c .dataDir) ∧ v = ⟨"dataDir", "value cannot be empty"⟩
  | .proxy i, v => ∃ text, c.proxies[i]? = some text ∧ (block "trustedProxies" text).Breaks v
  | .receiverUrl, v => ¬Blank (c .receiverBaseUrl) ∧
      (service "enigma2.baseUrl" (c .receiverBaseUrl) ["http", "https"]).Breaks v
  | .receiverAuthMode, v =>
      (oneOf "enigma2.authMode" (c .receiverAuthMode) ["inherit", "none", "explicit"]).Breaks v
  | .receiverStreamPort, v => (port "enigma2.streamPort" (c .receiverStreamPort)).Breaks v
  | .receiverRetries, v => (range "enigma2.retries" (c .receiverRetries) 0 10).Breaks v
  | .receiverBackoff, v => (c .receiverMaxBackoff).nanos < (c .receiverBackoff).nanos ∧
      v = ⟨"enigma2.backoff", "must not exceed enigma2.maxBackoff"⟩
  | .epgDays, v => (range "epg.days" (c .epgDays) 0 14).Breaks v
  | .epgMaxConcurrency, v => (range "epg.maxConcurrency" (c .epgMaxConcurrency) 1 10).Breaks v
  | .epgTimeout, v => (range "epg.timeoutMs" (c .epgTimeoutMs) 100 60000).Breaks v
  | .epgRetries, v => (range "epg.retries" (c .epgRetries) 0 5).Breaks v
  | .epgFuzzyMax, v => (range "epg.fuzzyMax" (c .epgFuzzyMax) 0 10).Breaks v
  | .epgSource, v => (oneOf "epg.source" (c .epgSource) ["per-service", "bouquet"]).Breaks v
  | .engineMode, v => (oneOf "engine.mode" (c .engineMode) ["standard", "virtual"]).Breaks v
  | .engineMaxPool, v =>
      c .engineEnabled = true ∧ (positive "engine.maxPool" (c .engineMaxPool)).Breaks v
  | .engineGpuLimit, v =>
      c .engineGpuLimit < 0 ∧ v = ⟨"engine.gpuLimit", "value cannot be negative"⟩
  | .engineCpuThreshold, v => Nonpositive (c .engineCpuThresholdScale) ∧
      v = ⟨"engine.cpuThresholdScale", "value must be positive"⟩
  | .storeBackend, v =>
      (oneOf "store.backend" (c .storeBackend) ["memory", "sqlite", "bolt"]).Breaks v
  | .storePath, v => (c .storeBackend ≠ "memory" ∧ ¬Given (c .storePath)) ∧
      v = ⟨"store.path", "required for persistent store backends"⟩
  | .segmentSeconds, v => (range "hls.segmentSeconds" (c .hlsSegmentSeconds) 1 60).Breaks v
  | .vodMaxConcurrent, v => (positive "vod.maxConcurrent" (c .vodMaxConcurrent)).Breaks v
  | .tlsCertificate, v => (c .tlsEnabled = true ∧ ¬Given (c .tlsCert)) ∧
      v = ⟨"tls.cert", "required when tls.enabled is true"⟩
  | .tlsKey, v => (c .tlsEnabled = true ∧ ¬Given (c .tlsKey)) ∧
      v = ⟨"tls.key", "required when tls.enabled is true"⟩
  | .forcedHttps, v => (c .tlsForceHttps = true ∧ c .tlsEnabled = false ∧ c.proxies = []) ∧
      v = ⟨"tls.forceHTTPS", "HTTPS_WITHOUT_TLS: forceHTTPS requires tls.enabled or " ++
        "trustedProxies for a TLS-terminating proxy"⟩
  | .globalRate, v =>
      c .rateLimitEnabled = true ∧ (positive "rateLimit.global" (c .rateLimitGlobal)).Breaks v
  | .authRate, v =>
      c .rateLimitEnabled = true ∧ (positive "rateLimit.auth" (c .rateLimitAuth)).Breaks v
  | .burst, v =>
      c .rateLimitEnabled = true ∧ (positive "rateLimit.burst" (c .rateLimitBurst)).Breaks v
  | .whitelisted i, v =>
      ∃ text, (c .rateLimitWhitelist)[i]? = some text ∧ (block "rateLimit.whitelist" text).Breaks v
  | .outboundScheme i, v => ∃ scheme, (c .outboundSchemes)[i]? = some scheme ∧
      (oneOf "network.outbound.allow.schemes" scheme ["http", "https", "rtsp"]).Breaks v
  | .outboundPort i, v => ∃ number, (c .outboundPorts)[i]? = some number ∧
      (port "network.outbound.allow.ports" number).Breaks v
  | .outboundCidr i, v => ∃ text, (c .outboundCidrs)[i]? = some text ∧
      (block "network.outbound.allow.cidrs" text).Breaks v
  | .outboundTarget, v =>
      (c .outboundEnabled = true ∧ c .outboundHosts = [] ∧ c .outboundCidrs = []) ∧
        v = ⟨"network.outbound.allow", "enabled outbound policy needs at least one host or CIDR"⟩
  | .deliveryPolicy, v =>
      (oneOf "streaming.deliveryPolicy" (c .streamingDeliveryPolicy) ["universal"]).Breaks v
  | .playbackPolicy, v => (oneOf "recording_playback.playback_policy" (c .recordingPlaybackPolicy)
      ["auto", "local_only", "receiver_only"]).Breaks v
  | .recordingRoot i, v => ∃ root, (c .recordingRoots)[i]? = some root ∧ ¬Absolute root.2 ∧
      v = ⟨"recording_roots", "root " ++ Text.quoted root.1 ++ " must be an absolute path"⟩
  | .pathMapping i, v => ∃ m, (c .recordingPathMappings)[i]? = some m ∧
      ¬(Absolute m.receiverRoot ∧ Absolute m.localRoot) ∧
      v = ⟨"recording_playback.mappings", "mapping " ++ Text.quoted m.receiverRoot ++ " -> " ++
        Text.quoted m.localRoot ++ " must use absolute paths"⟩
  | .libraryRoot i .id, v => ∃ root, (c .libraryRoots)[i]? = some root ∧
      RootId ((c .libraryRoots).take i) root.id v
  | .libraryRoot i .path, v => ∃ root, (c .libraryRoots)[i]? = some root ∧ Blank root.path ∧
      v = ⟨"library.roots", "root " ++ Text.quoted root.id ++ " has no path"⟩
  | .libraryRoot i .type, v => ∃ root, (c .libraryRoots)[i]? = some root ∧
      (oneOf "library.roots.type" root.type ["local", "smb", "nfs"]).Breaks v
  | .libraryPresence, v => (c .libraryEnabled = true ∧ c .libraryRoots = []) ∧
      v = ⟨"library.roots", "enabled library needs at least one root"⟩

/-- A root of the library is demanded something only if it is there. -/
theorem lt_of_breach_libraryRoot {c : Config} {i : Nat} {aspect : RootAspect} {v : Violation}
    (breach : Breach c (.libraryRoot i aspect) v) : i < (c .libraryRoots).length := by
  have there : ∃ root, (c .libraryRoots)[i]? = some root := by
    cases aspect with
    | id => exact breach.imp fun _ => And.left
    | path => exact breach.imp fun _ => And.left
    | type => exact breach.imp fun _ => And.left
  obtain ⟨root, found⟩ := there
  exact (List.getElem?_eq_some_iff.mp found).1

end LayeredConfig.Validation
