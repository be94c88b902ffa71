import LayeredConfig.Duration

/-!
# Settings and what they hold

`Setting` names every leaf of a configuration, in the order in which listings
show them.  `Kind` says what a setting holds, `Kind.Carrier` is the type of its
values, and `Setting.kind` ties the two together.

Main statement: `Setting.mem_all`, the listing leaves no setting out.
-/

namespace LayeredConfig

open Number

/-- An API token with the scopes it grants. -/
structure ScopedToken where
  token : String
  scopes : List String
  user : Option String := none
  deriving DecidableEq, Repr

/-- A recording root of the receiver and the local path on which it is mounted. -/
structure PathMapping where
  receiverRoot : String
  localRoot : String
  deriving DecidableEq, Repr

/-- A directory of the media library. -/
structure LibraryRoot where
  id : String
  path : String
  /-- `local`, `smb` or `nfs`. -/
  type : String
  maxDepth : Int := 0
  extensions : List String := []
  deriving DecidableEq, Repr

/-- Names with a text each, in the order of the names. -/
abbrev Table := List (String × String)

/-- Puts a text under a name, in place of the one it had. -/
def Table.put (key text : String) : Table → Table
  | [] => [(key, text)]
  | (k, t) :: rest =>
      if k = key then (key, text) :: rest
      else if key < k then (key, text) :: (k, t) :: rest
      else (k, t) :: Table.put key text rest

/-- What a setting holds. -/
inductive Kind where
  | text
  /-- A text that may be missing. -/
  | optionalText
  | int
  | bool
  | float
  | duration
  | texts
  | ints
  | table
  | tokens
  | mappings
  | libraryRoots
  deriving DecidableEq, Repr

@[reducible] def Kind.Carrier : Kind → Type
  | .text => String
  | .optionalText => Option String
  | .int => Int
  | .bool => Bool
  | .float => Binary64
  | .duration => Duration
  | .texts => List String
  | .ints => List Int
  | .table => Table
  | .tokens => List ScopedToken
  | .mappings => List PathMapping
  | .libraryRoots => List LibraryRoot

/-- The value of a kind before any layer supplied one. -/
def Kind.empty : (k : Kind) → k.Carrier
  | .text => ""
  | .optionalText => none
  | .int => 0
  | .bool => false
  | .float => .finite false .zero
  | .duration => .zero
  | .texts => []
  | .ints => []
  | .table => []
  | .tokens => []
  | .mappings => []
  | .libraryRoots => []

/-- Every leaf of a configuration. -/
inductive Setting where
  -- core
  | version
  | configVersion
  | configStrict
  | readyStrict
  | dataDir
  | logLevel
  | logService
  | bouquets
  | trustedProxies
  | piconBase
  -- receiver
  | receiverBaseUrl
  | receiverUsername
  | receiverPassword
  | receiverAuthMode
  | receiverTimeout
  | receiverResponseHeaderTimeout
  | receiverTuneTimeout
  | receiverRetries
  | receiverBackoff
  | receiverMaxBackoff
  | receiverStreamPort
  | receiverUseWebIfStreams
  | receiverRateLimit
  | receiverRateBurst
  | receiverUserAgent
  | receiverAnalyzeDuration
  | receiverProbeSize
  | receiverFallbackTo8001
  | receiverPreflightTimeout
  -- api
  | apiToken
  | apiTokenScopes
  | apiTokens
  | apiListenAddress
  | apiAllowedOrigins
  -- programme guide
  | epgEnabled
  | epgDays
  | epgMaxConcurrency
  | epgTimeoutMs
  | epgRetries
  | epgFuzzyMax
  | epgXmltvPath
  | epgSource
  | epgRefreshInterval
  -- engine
  | engineEnabled
  | engineMode
  | engineIdleTimeout
  | engineTunerSlots
  | engineMaxPool
  | engineGpuLimit
  | engineCpuThresholdScale
  -- store, live stream, transcoder, recordings on demand
  | storeBackend
  | storePath
  | hlsRoot
  | hlsDvrWindow
  | hlsSegmentSeconds
  | ffmpegBin
  | ffprobeBin
  | ffmpegKillTimeout
  | vodProbeSize
  | vodAnalyzeDuration
  | vodStallTimeout
  | vodMaxConcurrent
  | vodCacheTtl
  | vodCacheMaxEntries
  -- transport security
  | tlsEnabled
  | tlsCert
  | tlsKey
  | tlsForceHttps
  -- rate limits
  | rateLimitEnabled
  | rateLimitGlobal
  | rateLimitAuth
  | rateLimitBurst
  | rateLimitWhitelist
  -- outbound policy
  | outboundEnabled
  | outboundHosts
  | outboundCidrs
  | outboundPorts
  | outboundSchemes
  -- metrics, streaming, verification
  | metricsEnabled
  | metricsListenAddress
  | streamingDeliveryPolicy
  | verificationEnabled
  | verificationInterval
  -- recordings
  | recordingRoots
  | recordingPlaybackPolicy
  | recordingStableWindow
  | recordingPathMappings
  -- library
  | libraryEnabled
  | libraryDbPath
  | libraryRoots
  deriving DecidableEq, Repr

namespace Setting

/-- What a setting holds. -/
@[reducible] def kind : Setting → Kind
  | .storePath | .tlsCert | .tlsKey => .optionalText
  | .receiverRetries | .receiverStreamPort | .receiverRateLimit | .receiverRateBurst | .epgDays
  | .epgMaxConcurrency | .epgTimeoutMs | .epgRetries | .epgFuzzyMax | .engineMaxPool
  | .engineGpuLimit | .hlsSegmentSeconds | .vodMaxConcurrent | .vodCacheMaxEntries
  | .rateLimitGlobal | .rateLimitAuth | .rateLimitBurst => .int
  | .configStrict | .readyStrict | .receiverUseWebIfStreams | .receiverFallbackTo8001
  | .epgEnabled | .engineEnabled | .tlsEnabled | .tlsForceHttps | .rateLimitEnabled
  | .outboundEnabled | .metricsEnabled | .verificationEnabled | .libraryEnabled => .bool
  | .engineCpuThresholdScale => .float
  | .receiverTimeout | .receiverResponseHeaderTimeout | .receiverTuneTimeout | .receiverBackoff
  | .receiverMaxBackoff | .receiverPreflightTimeout | .epgRefreshInterval | .engineIdleTimeout
  | .hlsDvrWindow | .ffmpegKillTimeout | .vodStallTimeout | .vodCacheTtl | .verificationInterval
  | .recordingStableWindow => .duration
  | .apiTokenScopes | .apiAllowedOrigins | .rateLimitWhitelist | .outboundHosts | .outboundCidrs
  | .outboundSchemes => .texts
  | .engineTunerSlots | .outboundPorts => .ints
  | .recordingRoots => .table
  | .apiTokens => .tokens
  | .recordingPathMappings => .mappings
  | .libraryRoots => .libraryRoots
  | _ => .text

/-- The values of a setting. -/
abbrev Value (s : Setting) : Type := s.kind.Carrier

def all : List Setting :=
  [.version, .configVersion, .configStrict, .readyStrict, .dataDir, .logLevel, .logService,
   .bouquets, .trustedProxies, .piconBase, .receiverBaseUrl, .receiverUsername,
   .receiverPassword, .receiverAuthMode, .receiverTimeout, .receiverResponseHeaderTimeout,
   .receiverTuneTimeout, .receiverRetries, .receiverBackoff, .receiverMaxBackoff,
   .receiverStreamPort, .receiverUseWebIfStreams, .receiverRateLimit, .receiverRateBurst,
   .receiverUserAgent, .receiverAnalyzeDuration, .receiverProbeSize, .receiverFallbackTo8001,
   .receiverPreflightTimeout, .apiToken, .apiTokenScopes, .apiTokens, .apiListenAddress,
   .apiAllowedOrigins, .epgEnabled, .epgDays, .epgMaxConcurrency, .epgTimeoutMs, .epgRetries,
   .epgFuzzyMax, .epgXmltvPath, .epgSource, .epgRefreshInterval, .engineEnabled, .engineMode,
   .engineIdleTimeout, .engineTunerSlots, .engineMaxPool, .engineGpuLimit,
   .engineCpuThresholdScale, .storeBackend, .storePath, .hlsRoot, .hlsDvrWindow,
   .hlsSegmentSeconds, .ffmpegBin, .ffprobeBin, .ffmpegKillTimeout, .vodProbeSize,
   .vodAnalyzeDuration, .vodStallTimeout, .vodMaxConcurrent, .vodCacheTtl, .vodCacheMaxEntries,
   .tlsEnabled, .tlsCert, .tlsKey, .tlsForceHttps, .rateLimitEnabled, .rateLimitGlobal,
   .rateLimitAuth, .rateLimitBurst, .rateLimitWhitelist, .outboundEnabled, .outboundHosts,
   .outboundCidrs, .outboundPorts, .outboundSchemes, .metricsEnabled, .metricsListenAddress,
   .streamingDeliveryPolicy, .verificationEnabled, .verificationInterval, .recordingRoots,
   .recordingPlaybackPolicy, .recordingStableWindow, .recordingPathMappings, .libraryEnabled,
   .libraryDbPath, .libraryRoots]

theorem mem_all (s : Setting) : s ∈ all := by
  cases s <;> decide

theorem nodup_all : all.Nodup := by
  decide

end Setting

end LayeredConfig
