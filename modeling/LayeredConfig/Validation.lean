import LayeredConfig.Rule

/-!
# The rules of a configuration

What a configuration must satisfy before it is handed out, in the order in which
violations are listed.
-/

namespace LayeredConfig.Validation

open Text Rule

/-- Whether a text has anything but blanks. -/
def isFilled (text : String) : Bool := !isBlankText text.toList

/-- Whether an optional text is there and has anything but blanks. -/
def isGiven (text : Option String) : Bool := text.any isFilled

/-- Whether a path starts at the root. -/
def isAbsolute (path : String) : Bool := startsWith ['/'] path.toList

/-- Rules that count under a condition. -/
def under (condition : Bool) (rules : List Rule) : List Rule := if condition then rules else []

def core (c : Config) : List Rule :=
  [oneOf "logLevel" (c .logLevel) ["trace", "debug", "info", "warn", "error"],
   demand "dataDir" "value cannot be empty" (isFilled (c .dataDir))] ++
  c.proxies.map (block "trustedProxies")

def receiver (c : Config) : List Rule :=
  under (isFilled (c .receiverBaseUrl))
    [service "enigma2.baseUrl" (c .receiverBaseUrl) ["http", "https"]] ++
  [oneOf "enigma2.authMode" (c .receiverAuthMode) ["inherit", "none", "explicit"],
   port "enigma2.streamPort" (c .receiverStreamPort),
   range "enigma2.retries" (c .receiverRetries) 0 10,
   demand "enigma2.backoff" "must not exceed enigma2.maxBackoff"
     ((c .receiverBackoff).nanos ≤ (c .receiverMaxBackoff).nanos)]

def epg (c : Config) : List Rule :=
  [range "epg.days" (c .epgDays) 0 14,
   range "epg.maxConcurrency" (c .epgMaxConcurrency) 1 10,
   range "epg.timeoutMs" (c .epgTimeoutMs) 100 60000,
   range "epg.retries" (c .epgRetries) 0 5,
   range "epg.fuzzyMax" (c .epgFuzzyMax) 0 10,
   oneOf "epg.source" (c .epgSource) ["per-service", "bouquet"]]

def engine (c : Config) : List Rule :=
  [oneOf "engine.mode" (c .engineMode) ["standard", "virtual"]] ++
  under (c .engineEnabled) [positive "engine.maxPool" (c .engineMaxPool)] ++
  [demand "engine.gpuLimit" "value cannot be negative" (0 ≤ c .engineGpuLimit),
   demand "engine.cpuThresholdScale" "value must be positive"
     (!(c .engineCpuThresholdScale).isNonpositive)]

def store (c : Config) : List Rule :=
  [oneOf "store.backend" (c .storeBackend) ["memory", "sqlite", "bolt"],
   demand "store.path" "required for persistent store backends"
     (c .storeBackend == "memory" || isGiven (c .storePath))]

def streams (c : Config) : List Rule :=
  [range "hls.segmentSeconds" (c .hlsSegmentSeconds) 1 60,
   positive "vod.maxConcurrent" (c .vodMaxConcurrent)]

def transport (c : Config) : List Rule :=
  under (c .tlsEnabled)
    [demand "tls.cert" "required when tls.enabled is true" (isGiven (c .tlsCert)),
     demand "tls.key" "required when tls.enabled is true" (isGiven (c .tlsKey))] ++
  [demand "tls.forceHTTPS"
     ("HTTPS_WITHOUT_TLS: forceHTTPS requires tls.enabled or " ++
       "trustedProxies for a TLS-terminating proxy")
     (!c .tlsForceHttps || c .tlsEnabled || !c.proxies.isEmpty)]

def rateLimit (c : Config) : List Rule :=
  under (c .rateLimitEnabled)
    [positive "rateLimit.global" (c .rateLimitGlobal),
     positive "rateLimit.auth" (c .rateLimitAuth),
     positive "rateLimit.burst" (c .rateLimitBurst)] ++
  (c .rateLimitWhitelist).map (block "rateLimit.whitelist")

def outbound (c : Config) : List Rule :=
  ((c .outboundSchemes).map fun scheme =>
    oneOf "network.outbound.allow.schemes" scheme ["http", "https", "rtsp"]) ++
  (c .outboundPorts).map (port "network.outbound.allow.ports") ++
  (c .outboundCidrs).map (block "network.outbound.allow.cidrs") ++
  [demand "network.outbound.allow" "enabled outbound policy needs at least one host or CIDR"
     (!c .outboundEnabled || !(c .outboundHosts).isEmpty || !(c .outboundCidrs).isEmpty)]

def streaming (c : Config) : List Rule :=
  [oneOf "streaming.deliveryPolicy" (c .streamingDeliveryPolicy) ["universal"]]

def recording (c : Config) : List Rule :=
  [oneOf "recording_playback.playback_policy" (c .recordingPlaybackPolicy)
     ["auto", "local_only", "receiver_only"]] ++
  ((c .recordingRoots).map fun root =>
    demand "recording_roots" ("root " ++ quoted root.1 ++ " must be an absolute path")
      (isAbsolute root.2)) ++
  (c .recordingPathMappings).map fun m =>
    demand "recording_playback.mappings"
      ("mapping " ++ quoted m.receiverRoot ++ " -> " ++ quoted m.localRoot ++
        " must use absolute paths")
      (isAbsolute m.receiverRoot && isAbsolute m.localRoot)

/-- An id is filled and was not taken by a root in front. -/
def libraryId (taken : List String) (id : String) : Rule :=
  if isFilled id then
    demand "library.roots" ("duplicate root id " ++ quoted id) (!taken.contains id)
  else demand "library.roots" "root id cannot be empty" false

/-- The rules of library roots behind those that took some ids. -/
def libraryRoots (taken : List String) : List LibraryRoot → List Rule
  | [] => []
  | root :: rest =>
      [libraryId taken root.id,
       demand "library.roots" ("root " ++ quoted root.id ++ " has no path") (isFilled root.path),
       oneOf "library.roots.type" root.type ["local", "smb", "nfs"]] ++
      libraryRoots (if isFilled root.id then root.id :: taken else taken) rest

def library (c : Config) : List Rule :=
  libraryRoots [] (c .libraryRoots) ++
  [demand "library.roots" "enabled library needs at least one root"
     (!c .libraryEnabled || !(c .libraryRoots).isEmpty)]

def rules (c : Config) : List Rule :=
  core c ++ receiver c ++ epg c ++ engine c ++ store c ++ streams c ++ transport c ++
    rateLimit c ++ outbound c ++ streaming c ++ recording c ++ library c

def check (c : Config) : Except Failure Unit := checkAll (rules c)

end LayeredConfig.Validation
