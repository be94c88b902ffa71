import LayeredConfig.Proofs.Validation.Covers

/-!
# The rules in their order

Each group of rules covers the places from its first rule to its last.  The
groups follow each other, so all rules together cover all places.

Main statements: `covers_rules`, `between_ends`.
-/

namespace LayeredConfig.Validation

open Rule (oneOf range port positive service block demand)

variable (c : Config)

theorem covers_core : Covers c (Between .logLevel (.proxy 0)) (core c) := by
  have logLevel : Covers c (Between .logLevel .logLevel) [oneOf "logLevel" (c .logLevel) _] :=
    covers_rule .logLevel rfl fun _ => Iff.rfl
  have directory : Covers c (Between .dataDirectory .dataDirectory)
      [demand "dataDir" _ (isFilled (c .dataDir))] :=
    covers_demand .dataDirectory rfl isFilled_eq_false_iff fun _ => Iff.rfl
  have proxies : Covers c (Between (.proxy 0) (.proxy 0))
      (c.proxies.map (block "trustedProxies")) :=
    covers_each (fun q same => Place.proxy.elim q same fun i => ⟨i, rfl⟩) (fun _ => ⟨rfl, rfl⟩)
      fun _ _ => Iff.rfl
  exact (logLevel.followed directory (by decide)).followed proxies (by decide)

theorem covers_receiver : Covers c (Between .receiverUrl .receiverBackoff) (receiver c) := by
  have url : Covers c (Between .receiverUrl .receiverUrl) (under (isFilled (c .receiverBaseUrl))
      [service "enigma2.baseUrl" (c .receiverBaseUrl) ["http", "https"]]) :=
    covers_under .receiverUrl rfl fun v => by
      rw [isFilled_eq_true_iff]
      rfl
  have mode : Covers c (Between .receiverAuthMode .receiverAuthMode)
      [oneOf "enigma2.authMode" (c .receiverAuthMode) _] :=
    covers_rule .receiverAuthMode rfl fun _ => Iff.rfl
  have port : Covers c (Between .receiverStreamPort .receiverStreamPort)
      [port "enigma2.streamPort" (c .receiverStreamPort)] :=
    covers_rule .receiverStreamPort rfl fun _ => Iff.rfl
  have retries : Covers c (Between .receiverRetries .receiverRetries)
      [range "enigma2.retries" (c .receiverRetries) 0 10] :=
    covers_rule .receiverRetries rfl fun _ => Iff.rfl
  have backoff : Covers c (Between .receiverBackoff .receiverBackoff) [demand "enigma2.backoff" _
      ((c .receiverBackoff).nanos ≤ (c .receiverMaxBackoff).nanos)] :=
    covers_demand .receiverBackoff rfl
      (by rw [decide_eq_false_iff_not, Nat.not_le]) fun _ => Iff.rfl
  exact url.followed (mode.followed (port.followed (retries.followed backoff (by decide))
    (by decide)) (by decide)) (by decide)

theorem covers_epg : Covers c (Between .epgDays .epgSource) (epg c) := by
  have days : Covers c (Between .epgDays .epgDays) [range "epg.days" (c .epgDays) 0 14] :=
    covers_rule .epgDays rfl fun _ => Iff.rfl
  have concurrency : Covers c (Between .epgMaxConcurrency .epgMaxConcurrency)
      [range "epg.maxConcurrency" (c .epgMaxConcurrency) 1 10] :=
    covers_rule .epgMaxConcurrency rfl fun _ => Iff.rfl
  have timeout : Covers c (Between .epgTimeout .epgTimeout)
      [range "epg.timeoutMs" (c .epgTimeoutMs) 100 60000] :=
    covers_rule .epgTimeout rfl fun _ => Iff.rfl
  have retries : Covers c (Between .epgRetries .epgRetries)
      [range "epg.retries" (c .epgRetries) 0 5] :=
    covers_rule .epgRetries rfl fun _ => Iff.rfl
  have fuzzy : Covers c (Between .epgFuzzyMax .epgFuzzyMax)
      [range "epg.fuzzyMax" (c .epgFuzzyMax) 0 10] :=
    covers_rule .epgFuzzyMax rfl fun _ => Iff.rfl
  have source : Covers c (Between .epgSource .epgSource) [oneOf "epg.source" (c .epgSource) _] :=
    covers_rule .epgSource rfl fun _ => Iff.rfl
  have later := timeout.followed (retries.followed (fuzzy.followed source (by decide))
    (by decide)) (by decide)
  exact days.followed (concurrency.followed later (by decide)) (by decide)

theorem covers_engine : Covers c (Between .engineMode .engineCpuThreshold) (engine c) := by
  have mode : Covers c (Between .engineMode .engineMode) [oneOf "engine.mode" (c .engineMode) _] :=
    covers_rule .engineMode rfl fun _ => Iff.rfl
  have pool : Covers c (Between .engineMaxPool .engineMaxPool)
      (under (c .engineEnabled) [positive "engine.maxPool" (c .engineMaxPool)]) :=
    covers_under .engineMaxPool rfl fun _ => Iff.rfl
  have gpu : Covers c (Between .engineGpuLimit .engineGpuLimit)
      [demand "engine.gpuLimit" _ (0 ≤ c .engineGpuLimit)] :=
    covers_demand .engineGpuLimit rfl (by rw [decide_eq_false_iff_not, Int.not_le]) fun _ => Iff.rfl
  have cpu : Covers c (Between .engineCpuThreshold .engineCpuThreshold)
      [demand "engine.cpuThresholdScale" _ (!(c .engineCpuThresholdScale).isNonpositive)] :=
    covers_demand .engineCpuThreshold rfl
      (by rw [Bool.not_eq_false', isNonpositive_eq_true_iff]) fun _ => Iff.rfl
  exact (mode.followed pool (by decide)).followed (gpu.followed cpu (by decide)) (by decide)

theorem covers_store : Covers c (Between .storeBackend .storePath) (store c) := by
  have backend : Covers c (Between .storeBackend .storeBackend)
      [oneOf "store.backend" (c .storeBackend) _] :=
    covers_rule .storeBackend rfl fun _ => Iff.rfl
  have path : Covers c (Between .storePath .storePath) [demand "store.path" _
      (c .storeBackend == "memory" || isGiven (c .storePath))] :=
    covers_demand .storePath rfl
      (by rw [Bool.or_eq_false_iff, beq_eq_false_iff_ne, isGiven_eq_false_iff]) fun _ => Iff.rfl
  exact backend.followed path (by decide)

theorem covers_streams : Covers c (Between .segmentSeconds .vodMaxConcurrent) (streams c) := by
  have segments : Covers c (Between .segmentSeconds .segmentSeconds)
      [range "hls.segmentSeconds" (c .hlsSegmentSeconds) 1 60] :=
    covers_rule .segmentSeconds rfl fun _ => Iff.rfl
  have vod : Covers c (Between .vodMaxConcurrent .vodMaxConcurrent)
      [positive "vod.maxConcurrent" (c .vodMaxConcurrent)] :=
    covers_rule .vodMaxConcurrent rfl fun _ => Iff.rfl
  exact segments.followed vod (by decide)

theorem covers_transport : Covers c (Between .tlsCertificate .forcedHttps) (transport c) := by
  have certificate : Covers c (Between .tlsCertificate .tlsCertificate)
      (under (c .tlsEnabled) [demand "tls.cert" _ (isGiven (c .tlsCert))]) :=
    covers_under_demand .tlsCertificate rfl isGiven_eq_false_iff fun _ => Iff.rfl
  have key : Covers c (Between .tlsKey .tlsKey)
      (under (c .tlsEnabled) [demand "tls.key" _ (isGiven (c .tlsKey))]) :=
    covers_under_demand .tlsKey rfl isGiven_eq_false_iff fun _ => Iff.rfl
  have https : Covers c (Between .forcedHttps .forcedHttps) [demand "tls.forceHTTPS" _
      (!c .tlsForceHttps || c .tlsEnabled || !c.proxies.isEmpty)] :=
    covers_demand .forcedHttps rfl
      (by rw [Bool.or_eq_false_iff, Bool.or_eq_false_iff, Bool.not_eq_false', Bool.not_eq_false',
        List.isEmpty_iff, and_assoc]) fun _ => Iff.rfl
  unfold transport
  rw [under_cons]
  exact (certificate.followed key (by decide)).followed https (by decide)

theorem covers_rateLimit : Covers c (Between .globalRate (.whitelisted 0)) (rateLimit c) := by
  have global : Covers c (Between .globalRate .globalRate)
      (under (c .rateLimitEnabled) [positive "rateLimit.global" (c .rateLimitGlobal)]) :=
    covers_under .globalRate rfl fun _ => Iff.rfl
  have auth : Covers c (Between .authRate .authRate)
      (under (c .rateLimitEnabled) [positive "rateLimit.auth" (c .rateLimitAuth)]) :=
    covers_under .authRate rfl fun _ => Iff.rfl
  have burst : Covers c (Between .burst .burst)
      (under (c .rateLimitEnabled) [positive "rateLimit.burst" (c .rateLimitBurst)]) :=
    covers_under .burst rfl fun _ => Iff.rfl
  have whitelist : Covers c (Between (.whitelisted 0) (.whitelisted 0))
      ((c .rateLimitWhitelist).map (block "rateLimit.whitelist")) :=
    covers_each (fun q same => Place.whitelisted.elim q same fun i => ⟨i, rfl⟩)
      (fun _ => ⟨rfl, rfl⟩) fun _ _ => Iff.rfl
  unfold rateLimit
  rw [under_cons, under_cons _ (positive "rateLimit.auth" _)]
  exact (global.followed (auth.followed burst (by decide)) (by decide)).followed whitelist
    (by decide)

theorem covers_outbound : Covers c (Between (.outboundScheme 0) .outboundTarget) (outbound c) := by
  have schemes : Covers c (Between (.outboundScheme 0) (.outboundScheme 0))
      ((c .outboundSchemes).map fun scheme =>
      oneOf "network.outbound.allow.schemes" scheme ["http", "https", "rtsp"]) :=
    covers_each (fun q same => Place.outboundScheme.elim q same fun i => ⟨i, rfl⟩)
      (fun _ => ⟨rfl, rfl⟩) fun _ _ => Iff.rfl
  have ports : Covers c (Between (.outboundPort 0) (.outboundPort 0))
      ((c .outboundPorts).map (port "network.outbound.allow.ports")) :=
    covers_each (fun q same => Place.outboundPort.elim q same fun i => ⟨i, rfl⟩)
      (fun _ => ⟨rfl, rfl⟩) fun _ _ => Iff.rfl
  have cidrs : Covers c (Between (.outboundCidr 0) (.outboundCidr 0))
      ((c .outboundCidrs).map (block "network.outbound.allow.cidrs")) :=
    covers_each (fun q same => Place.outboundCidr.elim q same fun i => ⟨i, rfl⟩)
      (fun _ => ⟨rfl, rfl⟩) fun _ _ => Iff.rfl
  have target : Covers c (Between .outboundTarget .outboundTarget)
      [demand "network.outbound.allow" _
      (!c .outboundEnabled || !(c .outboundHosts).isEmpty || !(c .outboundCidrs).isEmpty)] :=
    covers_demand .outboundTarget rfl
      (by rw [Bool.or_eq_false_iff, Bool.or_eq_false_iff, Bool.not_eq_false', Bool.not_eq_false',
        Bool.not_eq_false', List.isEmpty_iff, List.isEmpty_iff, and_assoc]) fun _ => Iff.rfl
  exact ((schemes.followed ports (by decide)).followed cidrs (by decide)).followed target
    (by decide)

theorem covers_streaming : Covers c (Between .deliveryPolicy .deliveryPolicy) (streaming c) :=
  covers_rule .deliveryPolicy rfl fun _ => Iff.rfl

theorem covers_recording : Covers c (Between .playbackPolicy (.pathMapping 0)) (recording c) := by
  have policy : Covers c (Between .playbackPolicy .playbackPolicy)
      [oneOf "recording_playback.playback_policy" (c .recordingPlaybackPolicy) _] :=
    covers_rule .playbackPolicy rfl fun _ => Iff.rfl
  have roots : Covers c (Between (.recordingRoot 0) (.recordingRoot 0))
      ((c .recordingRoots).map fun root =>
      demand "recording_roots" ("root " ++ Text.quoted root.1 ++ " must be an absolute path")
        (isAbsolute root.2)) :=
    covers_each (fun q same => Place.recordingRoot.elim q same fun i => ⟨i, rfl⟩)
      (fun _ => ⟨rfl, rfl⟩) fun i v => by
        simp only [Rule.breaks_demand_iff, isAbsolute_eq_false_iff]
        rfl
  have mappings : Covers c (Between (.pathMapping 0) (.pathMapping 0))
      ((c .recordingPathMappings).map fun m =>
      demand "recording_playback.mappings" ("mapping " ++ Text.quoted m.receiverRoot ++ " -> " ++
        Text.quoted m.localRoot ++ " must use absolute paths")
        (isAbsolute m.receiverRoot && isAbsolute m.localRoot)) :=
    covers_each (fun q same => Place.pathMapping.elim q same fun i => ⟨i, rfl⟩)
      (fun _ => ⟨rfl, rfl⟩) fun i v => by
        simp only [Rule.breaks_demand_iff, ← Bool.not_eq_true, Bool.and_eq_true,
          isAbsolute_eq_true_iff]
        rfl
  exact (policy.followed roots (by decide)).followed mappings (by decide)

variable {c}

/-! ## Roots of the library -/

/-- The ids that a root must not have are those of the roots in front. -/
theorem breaks_libraryId_iff {front : List LibraryRoot} {taken : List String} {id : String}
    {v : Violation} (known : ∀ id, id ∈ taken ↔ ¬Blank id ∧ ∃ root ∈ front, root.id = id) :
    (libraryId taken id).Breaks v ↔ RootId front id v := by
  unfold libraryId RootId
  split
  next filled =>
    rw [isFilled_eq_true_iff] at filled
    rw [Rule.breaks_demand_iff, Bool.not_eq_false', List.contains_iff_mem, known]
    simp only [filled, not_false_eq_true, true_and, false_and, false_or]
  next blank =>
    rw [Bool.not_eq_true, isFilled_eq_false_iff] at blank
    rw [Rule.breaks_demand_iff]
    simp only [blank, not_true_eq_false, true_and, false_and, or_false]

/-- The next root takes its id too, unless that is blank. -/
theorem mem_taken_iff {front : List LibraryRoot} {taken : List String} (root : LibraryRoot)
    (known : ∀ id, id ∈ taken ↔ ¬Blank id ∧ ∃ root ∈ front, root.id = id) (id : String) :
    id ∈ (if isFilled root.id then root.id :: taken else taken) ↔
      ¬Blank id ∧ ∃ other ∈ front ++ [root], other.id = id := by
  simp only [List.mem_append, List.mem_singleton, or_and_right, exists_or, exists_eq_left,
    and_or_left, ← known]
  split
  next filled =>
    rw [isFilled_eq_true_iff] at filled
    rw [List.mem_cons, or_comm]
    exact or_congr_right ⟨fun same => ⟨same ▸ filled, same.symm⟩, fun last => last.2.symm⟩
  next blank =>
    rw [Bool.not_eq_true, isFilled_eq_false_iff] at blank
    exact (or_iff_left fun last => last.1 (last.2 ▸ blank)).symm

/-- The rules of one root. -/
theorem covers_root {front : List LibraryRoot} {root : LibraryRoot} {taken : List String}
    (found : (c .libraryRoots)[front.length]? = some root)
    (before : (c .libraryRoots).take front.length = front)
    (known : ∀ id, id ∈ taken ↔ ¬Blank id ∧ ∃ root ∈ front, root.id = id) :
    Covers c (At (.libraryRoot 0 .id) front.length) [libraryId taken root.id,
      demand "library.roots" ("root " ++ Text.quoted root.id ++ " has no path")
        (isFilled root.path),
      oneOf "library.roots.type" root.type ["local", "smb", "nfs"]] := by
  have id : Covers c (· = .libraryRoot front.length .id) [libraryId taken root.id] :=
    .one fun v => by
      rw [Rule.violation?_eq_some_iff, breaks_libraryId_iff known, Breach, found, before]
      simp
  have path : Covers c (· = .libraryRoot front.length .path) [demand "library.roots"
      ("root " ++ Text.quoted root.id ++ " has no path") (isFilled root.path)] :=
    .one fun v => by
      rw [Rule.violation?_eq_some_iff, Rule.breaks_demand_iff, isFilled_eq_false_iff, Breach, found]
      simp
  have type : Covers c (· = .libraryRoot front.length .type)
      [oneOf "library.roots.type" root.type ["local", "smb", "nfs"]] :=
    .one fun v => by
      rw [Rule.violation?_eq_some_iff, Breach, found]
      simp
  have both := path.append type (by
    rintro _ _ rfl rfl
    exact Place.before_libraryRoot_iff.mpr (by decide))
  refine (id.append both ?_).congr fun p v _ => ⟨?_, ?_⟩
  · rintro _ _ rfl (rfl | rfl)
    · exact Place.before_libraryRoot_iff.mpr (by decide)
    · exact Place.before_libraryRoot_iff.mpr (by decide)
  · rintro (rfl | rfl | rfl) <;> exact ⟨rfl, rfl⟩
  · rintro ⟨same, index⟩
    revert index
    refine Place.libraryRoot.elim p same ?_
    rintro i (_ | _ | _) rfl
    · exact .inl rfl
    · exact .inr (.inl rfl)
    · exact .inr (.inr rfl)

/-- The rules of the roots behind some others; what is known of these is the ids they took. -/
theorem covers_libraryRoots {front rest : List LibraryRoot} {taken : List String}
    (whole : front ++ rest = c .libraryRoots)
    (known : ∀ id, id ∈ taken ↔ ¬Blank id ∧ ∃ root ∈ front, root.id = id) :
    Covers c (From (.libraryRoot 0 .id) front.length) (libraryRoots taken rest) := by
  induction rest generalizing front taken with
  | nil =>
      refine .empty fun p v behind breach => ?_
      rw [List.append_nil] at whole
      obtain ⟨same, index⟩ := behind
      revert index breach
      refine Place.libraryRoot.elim p same ?_
      intro i aspect breach behind
      exact absurd (whole ▸ lt_of_breach_libraryRoot breach) (Nat.not_lt.mpr behind)
  | cons root rest ih =>
      have found : (c .libraryRoots)[front.length]? = some root := by
        rw [← whole]
        simp
      have before : (c .libraryRoots).take front.length = front := by
        rw [← whole]
        exact List.take_left
      have later := ih (by rw [← whole, List.append_assoc]; rfl) (mem_taken_iff root known)
      rw [List.length_append] at later
      exact (covers_root found before known).item later

theorem covers_library (c : Config) :
    Covers c (Between (.libraryRoot 0 .id) .libraryPresence) (library c) := by
  have fromFirst : Covers c (From (.libraryRoot 0 .id) 0) (libraryRoots [] (c .libraryRoots)) :=
    covers_libraryRoots (List.nil_append _) (by simp)
  have roots : Covers c (Between (.libraryRoot 0 .id) (.libraryRoot 0 .id))
      (libraryRoots [] (c .libraryRoots)) := fromFirst.items
  have presence : Covers c (Between .libraryPresence .libraryPresence) [demand "library.roots" _
      (!c .libraryEnabled || !(c .libraryRoots).isEmpty)] :=
    covers_demand .libraryPresence rfl
      (by rw [Bool.or_eq_false_iff, Bool.not_eq_false', Bool.not_eq_false', List.isEmpty_iff])
      fun _ => Iff.rfl
  exact roots.followed presence (by decide)

/-! ## All rules -/

theorem covers_rules (c : Config) : Covers c (Between .logLevel .libraryPresence) (rules c) := by
  have first := (covers_core c).followed (covers_receiver c) (by decide)
  have toStreams := ((first.followed (covers_epg c) (by decide)).followed (covers_engine c)
    (by decide)).followed (covers_store c) (by decide) |>.followed (covers_streams c) (by decide)
  have toOutbound := ((toStreams.followed (covers_transport c) (by decide)).followed
    (covers_rateLimit c) (by decide)).followed (covers_outbound c) (by decide)
  exact ((toOutbound.followed (covers_streaming c) (by decide)).followed (covers_recording c)
    (by decide)).followed (covers_library c) (by decide)

theorem between_ends (p : Place) : Between .logLevel .libraryPresence p := by
  cases p <;> exact ⟨Nat.zero_le _, Nat.le_of_ble_eq_true rfl⟩

end LayeredConfig.Validation
