import LayeredConfig.Setting.Basic

/-!
# The table of settings

One row per setting: its name, its key in the file, the variables that set it,
whom it is meant for, and how it may change.  The table is the single source of
these facts; the registry, the merge of variables, the file grammar and every
listing read them from here.
-/

namespace LayeredConfig

/-- Whom a setting is meant for. -/
inductive Tier where
  | simple | advanced | integrator | internal
  deriving DecidableEq, Repr

def Tier.name : Tier → String
  | .simple => "simple"
  | .advanced => "advanced"
  | .integrator => "integrator"
  | .internal => "internal"

/-- The stage of life of a setting. -/
inductive Status where
  | active | deprecated | candidate | internal
  deriving DecidableEq, Repr

def Status.name : Status → String
  | .active => "active"
  | .deprecated => "deprecated"
  | .candidate => "candidate"
  | .internal => "internal"

/-- The facts about a setting. -/
structure Setting.Row where
  /-- Dotted name, one per setting. -/
  name : String
  /-- Dotted key in the file. -/
  path : Option String
  /-- The variable that sets it. -/
  primary : Option String := none
  /-- An older variable, of lower rank. -/
  legacy : Option String := none
  tier : Tier := .simple
  status : Status := .active
  /-- Declared safe to change without a restart; counts only for the settings on the list
  `Setting.mayReload`. -/
  liveFlag : Bool := false
  /-- Masked wherever it is printed. -/
  secret : Bool := false

namespace Setting

def row : Setting → Row
  | .version =>
      { name := "Version", path := some "version", tier := .internal, status := .internal }
  | .configVersion =>
      { name := "ConfigVersion", path := some "configVersion", tier := .internal,
        status := .internal }
  | .configStrict =>
      { name := "ConfigStrict", path := some "configStrict",
        primary := some "XG2G_CONFIG_STRICT", tier := .advanced }
  | .readyStrict =>
      { name := "ReadyStrict", path := some "readyStrict", primary := some "XG2G_READY_STRICT",
        tier := .advanced }
  | .dataDir =>
      { name := "DataDir", path := some "dataDir", primary := some "XG2G_DATA" }
  | .logLevel =>
      { name := "LogLevel", path := some "logLevel", primary := some "XG2G_LOG_LEVEL",
        liveFlag := true }
  | .logService =>
      { name := "LogService", path := some "logService", primary := some "XG2G_LOG_SERVICE",
        tier := .advanced, liveFlag := true }
  | .bouquets =>
      { name := "Bouquet", path := some "bouquets", primary := some "XG2G_BOUQUET",
        liveFlag := true }
  | .trustedProxies =>
      { name := "TrustedProxies", path := some "trustedProxies",
        primary := some "XG2G_TRUSTED_PROXIES", tier := .advanced, liveFlag := true }
  | .piconBase =>
      { name := "PiconBase", path := some "picons.baseUrl", primary := some "XG2G_PICON_BASE",
        liveFlag := true }
  | .receiverBaseUrl =>
      { name := "Enigma2.BaseURL", path := some "enigma2.baseUrl",
        primary := some "XG2G_E2_HOST", legacy := some "XG2G_OWI_BASE" }
  | .receiverUsername =>
      { name := "Enigma2.Username", path := some "enigma2.username",
        primary := some "XG2G_E2_USER", legacy := some "XG2G_OWI_USER" }
  | .receiverPassword =>
      { name := "Enigma2.Password", path := some "enigma2.password",
        primary := some "XG2G_E2_PASS", legacy := some "XG2G_OWI_PASS", secret := true }
  | .receiverAuthMode =>
      { name := "Enigma2.AuthMode", path := some "enigma2.authMode",
        primary := some "XG2G_E2_AUTH_MODE", tier := .advanced }
  | .receiverTimeout =>
      { name := "Enigma2.Timeout", path := some "enigma2.timeout",
        primary := some "XG2G_E2_TIMEOUT", legacy := some "XG2G_OWI_TIMEOUT_MS",
        tier := .advanced }
  | .receiverResponseHeaderTimeout =>
      { name := "Enigma2.ResponseHeaderTimeout", path := some "enigma2.responseHeaderTimeout",
        primary := some "XG2G_E2_RESPONSE_HEADER_TIMEOUT", tier := .advanced }
  | .receiverTuneTimeout =>
      { name := "Enigma2.TuneTimeout", path := some "enigma2.tuneTimeout",
        primary := some "XG2G_E2_TUNE_TIMEOUT", tier := .advanced }
  | .receiverRetries =>
      { name := "Enigma2.Retries", path := some "enigma2.retries",
        primary := some "XG2G_E2_RETRIES", legacy := some "XG2G_OWI_RETRIES", tier := .advanced }
  | .receiverBackoff =>
      { name := "Enigma2.Backoff", path := some "enigma2.backoff",
        primary := some "XG2G_E2_BACKOFF", legacy := some "XG2G_OWI_BACKOFF_MS",
        tier := .advanced }
  | .receiverMaxBackoff =>
      { name := "Enigma2.MaxBackoff", path := some "enigma2.maxBackoff",
        primary := some "XG2G_E2_MAX_BACKOFF", legacy := some "XG2G_OWI_MAX_BACKOFF_MS",
        tier := .advanced }
  | .receiverStreamPort =>
      { name := "Enigma2.StreamPort", path := some "enigma2.streamPort",
        primary := some "XG2G_E2_STREAM_PORT", legacy := some "XG2G_STREAM_PORT",
        tier := .advanced, status := .deprecated }
  | .receiverUseWebIfStreams =>
      { name := "Enigma2.UseWebIFStreams", path := some "enigma2.useWebIFStreams",
        primary := some "XG2G_E2_USE_WEBIF_STREAMS", legacy := some "XG2G_USE_WEBIF_STREAMS",
        tier := .advanced }
  | .receiverRateLimit =>
      { name := "Enigma2.RateLimit", path := some "enigma2.rateLimit",
        primary := some "XG2G_E2_RATE_LIMIT", tier := .advanced }
  | .receiverRateBurst =>
      { name := "Enigma2.RateBurst", path := some "enigma2.rateBurst",
        primary := some "XG2G_E2_RATE_BURST", tier := .advanced }
  | .receiverUserAgent =>
      { name := "Enigma2.UserAgent", path := some "enigma2.userAgent",
        primary := some "XG2G_E2_USER_AGENT", tier := .advanced }
  | .receiverAnalyzeDuration =>
      { name := "Enigma2.AnalyzeDuration", path := some "enigma2.analyzeDuration",
        primary := some "XG2G_E2_ANALYZE_DURATION", tier := .advanced }
  | .receiverProbeSize =>
      { name := "Enigma2.ProbeSize", path := some "enigma2.probeSize",
        primary := some "XG2G_E2_PROBE_SIZE", tier := .advanced }
  | .receiverFallbackTo8001 =>
      { name := "Enigma2.FallbackTo8001", path := some "enigma2.fallbackTo8001",
        primary := some "XG2G_E2_FALLBACK_TO_8001", tier := .integrator }
  | .receiverPreflightTimeout =>
      { name := "Enigma2.PreflightTimeout", path := some "enigma2.preflightTimeout",
        primary := some "XG2G_E2_PREFLIGHT_TIMEOUT", tier := .advanced }
  | .apiToken =>
      { name := "API.Token", path := some "api.token", primary := some "XG2G_API_TOKEN",
        secret := true }
  | .apiTokenScopes =>
      { name := "API.TokenScopes", path := some "api.tokenScopes",
        primary := some "XG2G_API_TOKEN_SCOPES", tier := .advanced }
  | .apiTokens =>
      { name := "API.Tokens", path := some "api.tokens", primary := some "XG2G_API_TOKENS",
        tier := .advanced, secret := true }
  | .apiListenAddress =>
      { name := "API.ListenAddr", path := some "api.listenAddr", primary := some "XG2G_LISTEN" }
  | .apiAllowedOrigins =>
      { name := "API.AllowedOrigins", path := some "api.allowedOrigins",
        primary := some "XG2G_ALLOWED_ORIGINS", tier := .advanced, liveFlag := true }
  | .epgEnabled =>
      { name := "EPG.Enabled", path := some "epg.enabled", primary := some "XG2G_EPG_ENABLED",
        liveFlag := true }
  | .epgDays =>
      { name := "EPG.Days", path := some "epg.days", primary := some "XG2G_EPG_DAYS",
        liveFlag := true }
  | .epgMaxConcurrency =>
      { name := "EPG.MaxConcurrency", path := some "epg.maxConcurrency",
        primary := some "XG2G_EPG_MAX_CONCURRENCY", tier := .advanced, liveFlag := true }
  | .epgTimeoutMs =>
      { name := "EPG.TimeoutMS", path := some "epg.timeoutMs",
        primary := some "XG2G_EPG_TIMEOUT_MS", tier := .advanced, liveFlag := true }
  | .epgRetries =>
      { name := "EPG.Retries", path := some "epg.retries", primary := some "XG2G_EPG_RETRIES",
        tier := .advanced, liveFlag := true }
  | .epgFuzzyMax =>
      { name := "EPG.FuzzyMax", path := some "epg.fuzzyMax", primary := some "XG2G_FUZZY_MAX",
        tier := .advanced, liveFlag := true }
  | .epgXmltvPath =>
      { name := "EPG.XMLTVPath", path := some "epg.xmltvPath", primary := some "XG2G_XMLTV",
        tier := .advanced }
  | .epgSource =>
      { name := "EPG.Source", path := some "epg.source", primary := some "XG2G_EPG_SOURCE",
        tier := .advanced }
  | .epgRefreshInterval =>
      { name := "EPG.RefreshInterval", path := some "epg.refreshInterval",
        primary := some "XG2G_EPG_REFRESH_INTERVAL", tier := .advanced, liveFlag := true }
  | .engineEnabled =>
      { name := "Engine.Enabled", path := some "engine.enabled",
        primary := some "XG2G_ENGINE_ENABLED", tier := .advanced }
  | .engineMode =>
      { name := "Engine.Mode", path := some "engine.mode", primary := some "XG2G_ENGINE_MODE",
        tier := .advanced }
  | .engineIdleTimeout =>
      { name := "Engine.IdleTimeout", path := some "engine.idleTimeout",
        primary := some "XG2G_ENGINE_IDLE_TIMEOUT", tier := .advanced }
  | .engineTunerSlots =>
      { name := "Engine.TunerSlots", path := some "engine.tunerSlots",
        primary := some "XG2G_TUNER_SLOTS", tier := .advanced }
  | .engineMaxPool =>
      { name := "Engine.MaxPool", path := some "engine.maxPool",
        primary := some "XG2G_ENGINE_MAX_POOL", tier := .advanced }
  | .engineGpuLimit =>
      { name := "Engine.GPULimit", path := some "engine.gpuLimit",
        primary := some "XG2G_ENGINE_GPU_LIMIT", tier := .advanced }
  | .engineCpuThresholdScale =>
      { name := "Engine.CPUThresholdScale", path := some "engine.cpuThresholdScale",
        primary := some "XG2G_ENGINE_CPU_SCALE", tier := .advanced }
  | .storeBackend =>
      { name := "Store.Backend", path := some "store.backend",
        primary := some "XG2G_STORE_BACKEND", tier := .advanced }
  | .storePath =>
      { name := "Store.Path", path := some "store.path", primary := some "XG2G_STORE_PATH",
        tier := .advanced }
  | .hlsRoot =>
      { name := "HLS.Root", path := some "hls.root", primary := some "XG2G_HLS_ROOT",
        legacy := some "XG2G_V3_HLS_ROOT", tier := .advanced }
  | .hlsDvrWindow =>
      { name := "HLS.DVRWindow", path := some "hls.dvrWindow",
        primary := some "XG2G_HLS_DVR_WINDOW", tier := .advanced }
  | .hlsSegmentSeconds =>
      { name := "HLS.SegmentSeconds", path := some "hls.segmentSeconds",
        primary := some "XG2G_HLS_SEGMENT_SECONDS", tier := .advanced }
  | .ffmpegBin =>
      { name := "FFmpeg.Bin", path := some "ffmpeg.bin", primary := some "XG2G_FFMPEG_BIN",
        tier := .advanced }
  | .ffprobeBin =>
      { name := "FFmpeg.FFprobeBin", path := some "ffmpeg.ffprobeBin",
        primary := some "XG2G_FFPROBE_BIN", tier := .advanced }
  | .ffmpegKillTimeout =>
      { name := "FFmpeg.KillTimeout", path := some "ffmpeg.killTimeout",
        primary := some "XG2G_FFMPEG_KILL_TIMEOUT", tier := .advanced }
  | .vodProbeSize =>
      { name := "VOD.ProbeSize", path := some "vod.probeSize",
        legacy := some "XG2G_VOD_PROBE_SIZE", tier := .advanced }
  | .vodAnalyzeDuration =>
      { name := "VOD.AnalyzeDuration", path := some "vod.analyzeDuration",
        legacy := some "XG2G_VOD_ANALYZE_DURATION", tier := .advanced }
  | .vodStallTimeout =>
      { name := "VOD.StallTimeout", path := some "vod.stallTimeout",
        legacy := some "XG2G_VOD_STALL_TIMEOUT", tier := .advanced }
  | .vodMaxConcurrent =>
      { name := "VOD.MaxConcurrent", path := some "vod.maxConcurrent",
        legacy := some "XG2G_VOD_MAX_CONCURRENT", tier := .advanced }
  | .vodCacheTtl =>
      { name := "VOD.CacheTTL", path := some "vod.cacheTTL", legacy := some "XG2G_VOD_CACHE_TTL",
        tier := .advanced }
  | .vodCacheMaxEntries =>
      { name := "VOD.CacheMaxEntries", path := some "vod.cacheMaxEntries",
        legacy := some "XG2G_VOD_CACHE_MAX_ENTRIES", tier := .advanced }
  | .tlsEnabled =>
      { name := "TLS.Enabled", path := some "tls.enabled", primary := some "XG2G_TLS_ENABLED",
        tier := .advanced }
  | .tlsCert =>
      { name := "TLS.Cert", path := some "tls.cert", primary := some "XG2G_TLS_CERT",
        tier := .advanced }
  | .tlsKey =>
      { name := "TLS.Key", path := some "tls.key", primary := some "XG2G_TLS_KEY",
        tier := .advanced }
  | .tlsForceHttps =>
      { name := "TLS.ForceHTTPS", path := some "tls.forceHTTPS",
        primary := some "XG2G_FORCE_HTTPS", tier := .advanced }
  | .rateLimitEnabled =>
      { name := "RateLimit.Enabled", path := some "rateLimit.enabled",
        primary := some "XG2G_RATE_LIMIT_ENABLED", tier := .advanced, liveFlag := true }
  | .rateLimitGlobal =>
      { name := "RateLimit.Global", path := some "rateLimit.global",
        primary := some "XG2G_RATE_LIMIT_GLOBAL", tier := .advanced, liveFlag := true }
  | .rateLimitAuth =>
      { name := "RateLimit.Auth", path := some "rateLimit.auth",
        primary := some "XG2G_RATE_LIMIT_AUTH", tier := .advanced, liveFlag := true }
  | .rateLimitBurst =>
      { name := "RateLimit.Burst", path := some "rateLimit.burst",
        primary := some "XG2G_RATE_LIMIT_BURST", tier := .advanced, liveFlag := true }
  | .rateLimitWhitelist =>
      { name := "RateLimit.Whitelist", path := some "rateLimit.whitelist",
        primary := some "XG2G_RATE_LIMIT_WHITELIST", tier := .advanced, liveFlag := true }
  | .outboundEnabled =>
      { name := "Network.Outbound.Enabled", path := some "network.outbound.enabled",
        primary := some "XG2G_OUTBOUND_ENABLED", tier := .advanced }
  | .outboundHosts =>
      { name := "Network.Outbound.Allow.Hosts", path := some "network.outbound.allow.hosts",
        primary := some "XG2G_OUTBOUND_ALLOW_HOSTS", tier := .advanced }
  | .outboundCidrs =>
      { name := "Network.Outbound.Allow.CIDRs", path := some "network.outbound.allow.cidrs",
        primary := some "XG2G_OUTBOUND_ALLOW_CIDRS", tier := .advanced }
  | .outboundPorts =>
      { name := "Network.Outbound.Allow.Ports", path := some "network.outbound.allow.ports",
        primary := some "XG2G_OUTBOUND_ALLOW_PORTS", tier := .advanced }
  | .outboundSchemes =>
      { name := "Network.Outbound.Allow.Schemes", path := some "network.outbound.allow.schemes",
        primary := some "XG2G_OUTBOUND_ALLOW_SCHEMES", tier := .advanced }
  | .metricsEnabled =>
      { name := "Metrics.Enabled", path := some "metrics.enabled",
        primary := some "XG2G_METRICS_ENABLED", tier := .advanced }
  | .metricsListenAddress =>
      { name := "Metrics.ListenAddr", path := some "metrics.listenAddr",
        primary := some "XG2G_METRICS_LISTEN", tier := .advanced }
  | .streamingDeliveryPolicy =>
      { name := "Streaming.DeliveryPolicy", path := some "streaming.deliveryPolicy",
        primary := some "XG2G_STREAMING_POLICY" }
  | .verificationEnabled =>
      { name := "Verification.Enabled", path := some "verification.enabled",
        primary := some "XG2G_VERIFY_ENABLED", tier := .advanced, liveFlag := true }
  | .verificationInterval =>
      { name := "Verification.Interval", path := some "verification.interval",
        primary := some "XG2G_VERIFY_INTERVAL", tier := .advanced, liveFlag := true }
  | .recordingRoots =>
      { name := "Recording.Roots", path := some "recording_roots", tier := .advanced }
  | .recordingPlaybackPolicy =>
      { name := "Recording.PlaybackPolicy", path := some "recording_playback.playback_policy",
        tier := .advanced }
  | .recordingStableWindow =>
      { name := "Recording.StableWindow", path := some "recording_playback.stable_window",
        tier := .advanced }
  | .recordingPathMappings =>
      { name := "Recording.PathMappings", path := some "recording_playback.mappings",
        tier := .advanced }
  | .libraryEnabled =>
      { name := "Library.Enabled", path := some "library.enabled", tier := .advanced }
  | .libraryDbPath =>
      { name := "Library.DBPath", path := some "library.db_path", tier := .advanced }
  | .libraryRoots =>
      { name := "Library.Roots", path := some "library.roots", tier := .advanced }

/-- The dotted name of a setting. -/
def name (s : Setting) : String := s.row.name

/-- The key of a setting in the file, or its name where it has none. -/
def path (s : Setting) : String := s.row.path.getD s.name

def default : (s : Setting) → Option s.Value
  | .configVersion => some "v3"
  | .configStrict => some true
  | .readyStrict => some false
  | .dataDir => some "/tmp"
  | .logLevel => some "info"
  | .receiverAuthMode => some "inherit"
  | .receiverTimeout => some (.ofSeconds 10)
  | .receiverResponseHeaderTimeout => some (.ofSeconds 10)
  | .receiverTuneTimeout => some (.ofSeconds 10)
  | .receiverRetries => some 2
  | .receiverBackoff => some (.ofMillis 200)
  | .receiverMaxBackoff => some (.ofSeconds 30)
  | .receiverStreamPort => some 8001
  | .receiverUseWebIfStreams => some true
  | .receiverRateLimit => some 10
  | .receiverRateBurst => some 20
  | .receiverUserAgent => some "xg2g"
  | .receiverAnalyzeDuration => some "10000000"
  | .receiverProbeSize => some "32M"
  | .receiverFallbackTo8001 => some false
  | .receiverPreflightTimeout => some (.ofSeconds 10)
  | .apiListenAddress => some ":8088"
  | .epgEnabled => some true
  | .epgDays => some 14
  | .epgMaxConcurrency => some 5
  | .epgTimeoutMs => some 5000
  | .epgRetries => some 2
  | .epgFuzzyMax => some 2
  | .epgXmltvPath => some "xmltv.xml"
  | .epgSource => some "per-service"
  | .epgRefreshInterval => some (.ofHours 6)
  | .engineEnabled => some false
  | .engineMode => some "standard"
  | .engineIdleTimeout => some (.ofSeconds 60)
  | .engineMaxPool => some 2
  | .engineGpuLimit => some 8
  | .engineCpuThresholdScale => some (.ofMagnitude false (Number.Magnitude.ofFraction 3 2))
  | .storeBackend => some "memory"
  | .storePath => some (some "/var/lib/xg2g/store")
  | .hlsDvrWindow => some (.ofMinutes 45)
  | .hlsSegmentSeconds => some 6
  | .ffmpegBin => some "ffmpeg"
  | .ffmpegKillTimeout => some (.ofSeconds 5)
  | .vodProbeSize => some "50M"
  | .vodAnalyzeDuration => some "50000000"
  | .vodStallTimeout => some (.ofSeconds 60)
  | .vodMaxConcurrent => some 2
  | .vodCacheTtl => some (.ofHours 24)
  | .vodCacheMaxEntries => some 256
  | .tlsEnabled => some false
  | .tlsForceHttps => some false
  | .rateLimitEnabled => some true
  | .rateLimitGlobal => some 100
  | .rateLimitAuth => some 10
  | .rateLimitBurst => some 20
  | .outboundEnabled => some false
  | .metricsEnabled => some false
  | .streamingDeliveryPolicy => some "universal"
  | .verificationEnabled => some true
  | .verificationInterval => some (.ofSeconds 60)
  | .recordingPlaybackPolicy => some "auto"
  | .recordingStableWindow => some (.ofSeconds 10)
  | .libraryEnabled => some false
  | _ => none

/-- The settings that may change without a restart, if their entry declares them live. -/
def mayReload : List Setting :=
  [.logLevel, .logService, .bouquets, .piconBase, .apiAllowedOrigins, .epgEnabled, .epgDays,
   .epgMaxConcurrency, .epgTimeoutMs, .epgRetries, .epgFuzzyMax, .epgRefreshInterval,
   .rateLimitGlobal, .rateLimitAuth, .rateLimitBurst, .rateLimitWhitelist, .verificationEnabled,
   .verificationInterval]

/-- The lists that are kept as one comma-joined text. -/
def isCommaList : Setting → Bool
  | .bouquets | .trustedProxies => true
  | _ => false

/-- Does the older variable count milliseconds? -/
def olderCountsMillis : Setting → Bool
  | .receiverTimeout | .receiverBackoff | .receiverMaxBackoff => true
  | _ => false

def named (name : String) : Option Setting :=
  all.find? fun s => s.name = name

end Setting

end LayeredConfig
