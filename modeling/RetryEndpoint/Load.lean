import RetryEndpoint.CommaLists
import RetryEndpoint.Settings
import RetryEndpoint.Advert
import RetryEndpoint.Proxy

/-! config.Load: the flags with their variables and defaults, the lifetimes that fall
back on CACHE_TTL, and the checks in their order with what each of them puts in the
Config. The rate limits, which nothing checks, are in Settings; the beacon's checks,
which come last, in Advert. A string flag takes any bytes. -/
namespace RetryEndpoint.Load
open BigEndian Texts Settings CommaLists Cache
open RateLimit (minute v4InV6)
open Advert (to4 boundOk)

def second : Int := Advert.second

structure FlagReaders extends Readers where
  parseUint : Bytes → Option Nat

def parseBool (s : Bytes) : Option Bool :=
  if s ∈ ["1", "t", "T", "TRUE", "true", "True"].map utf8 then some true
  else if s ∈ ["0", "f", "F", "FALSE", "false", "False"].map utf8 then some false
  else none

/- uint(n) on a platform of 64 bits. -/
def toUint (n : Int) : Nat := (n % 2 ^ 64).toNat

section Flags
variable (rd : FlagReaders) (e : Surroundings)

def str (name key : String) (fallback : Bytes) : Option Bytes := flagVar e some name (envStr e key fallback)

def int (name key : String) (fallback : Int) : Option Int :=
  flagVar e rd.parseInt name (envInt e rd.toReaders key fallback)

def uint (name key : String) (fallback : Int) : Option Nat :=
  flagVar e rd.parseUint name (toUint (envInt e rd.toReaders key fallback))

def bool (name key : String) (fallback : Bool) : Option Bool :=
  flagVar e parseBool name (envValue e parseBool key fallback)

def duration (name key : String) (fallback : Int) : Option Int :=
  flagVar e rd.parseDuration name (envDuration e rd.toReaders key fallback)

/- The variable is not empty or flag.Visit meets the flag. -/
def explicit (name key : String) : Bool := e.getenv key ≠ [] || e.args.any (·.1 = name)

end Flags

inductive TTLName where | tx | block | subtree | anchor | beef deriving DecidableEq, Repr

def TTLName.flag : TTLName → String
  | .tx => "cache-ttl-tx"
  | .block => "cache-ttl-block"
  | .subtree => "cache-ttl-subtree"
  | .anchor => "cache-ttl-anchor"
  | .beef => "cache-ttl-beef"

def TTLName.key : TTLName → String
  | .tx => "CACHE_TTL_TX"
  | .block => "CACHE_TTL_BLOCK"
  | .subtree => "CACHE_TTL_SUBTREE"
  | .anchor => "CACHE_TTL_ANCHOR"
  | .beef => "CACHE_TTL_BEEF"

def TTLName.fallback : TTLName → Int
  | .tx => 60 * second
  | .block => 10 * minute
  | .subtree => 5 * minute
  | .anchor => 2 * minute
  | .beef => 60 * second

def TTLName.of (ttls : TTLConfig) : TTLName → Int
  | .tx => ttls.tx
  | .block => ttls.block
  | .subtree => ttls.subtree
  | .anchor => ttls.anchor
  | .beef => ttls.beef

structure TTLFlags where
  cacheTTL : Int
  ttls : TTLConfig
  cacheTTLExplicit : Bool
  txExplicit : Bool
  blockExplicit : Bool
  subtreeExplicit : Bool
  anchorExplicit : Bool
  deriving DecidableEq, Repr

def ttlFlag (rd : FlagReaders) (e : Surroundings) (name : TTLName) : Option Int :=
  duration rd e name.flag name.key name.fallback

def ttlFlags (rd : FlagReaders) (e : Surroundings) : Option TTLFlags := do
  let cacheTTL ← duration rd e "cache-ttl" "CACHE_TTL" (60 * second)
  let tx ← ttlFlag rd e .tx
  let block ← ttlFlag rd e .block
  let subtree ← ttlFlag rd e .subtree
  let anchor ← ttlFlag rd e .anchor
  let beef ← ttlFlag rd e .beef
  some {
    cacheTTL
    ttls := ⟨tx, block, subtree, anchor, beef⟩
    cacheTTLExplicit := explicit e "cache-ttl" "CACHE_TTL"
    txExplicit := explicit e TTLName.tx.flag TTLName.tx.key
    blockExplicit := explicit e TTLName.block.flag TTLName.block.key
    subtreeExplicit := explicit e TTLName.subtree.flag TTLName.subtree.key
    anchorExplicit := explicit e TTLName.anchor.flag TTLName.anchor.key }

def resolveCacheTTLs (f : TTLFlags) : TTLConfig :=
  if !f.cacheTTLExplicit then f.ttls
  else { f.ttls with
    tx := if !f.txExplicit then f.cacheTTL else f.ttls.tx
    block := if !f.blockExplicit then f.cacheTTL else f.ttls.block
    subtree := if !f.subtreeExplicit then f.cacheTTL else f.ttls.subtree
    anchor := if !f.anchorExplicit then f.cacheTTL else f.ttls.anchor }

structure IngressFlags where
  listenPort : Int
  teeListen : Bytes
  mcJoinEnabled : Bool
  ingressWorkers : Int
  ingressQueueDepth : Int
  ingressProcs : Int
  subtreeDataEnabled : Bool
  beefEnabled : Bool
  beefShardBits : Nat
  shardBits : Nat
  deriving DecidableEq, Repr

def ingressFlags (rd : FlagReaders) (e : Surroundings) : Option IngressFlags := do
  let listenPort ← int rd e "listen-port" "LISTEN_PORT" 9001
  let teeListen ← str e "tee-listen" "TEE_LISTEN" []
  let mcJoinEnabled ← bool e "mc-join-enabled" "MC_JOIN_ENABLED" true
  let ingressWorkers ← int rd e "ingress-workers" "INGRESS_WORKERS" 1
  let ingressQueueDepth ← int rd e "ingress-queue-depth" "INGRESS_QUEUE_DEPTH" 1024
  let ingressProcs ← int rd e "ingress-procs" "INGRESS_PROCS" 4
  let subtreeDataEnabled ← bool e "subtree-data-enabled" "SUBTREE_DATA_ENABLED" false
  let beefEnabled ← bool e "beef-enabled" "BEEF_ENABLED" false
  let beefShardBits ← uint rd e "beef-shard-bits" "BEEF_SHARD_BITS" 0
  let shardBits ← uint rd e "shard-bits" "SHARD_BITS" 2
  some ⟨listenPort, teeListen, mcJoinEnabled, ingressWorkers, ingressQueueDepth, ingressProcs,
    subtreeDataEnabled, beefEnabled, beefShardBits, shardBits⟩

structure SourceFlags where
  scope : Bytes
  mcGroupID : Bytes
  sourceMode : Bytes
  bindSource : Bytes
  ssmBootstrapManifest : Bytes
  ssmBootstrapBeacon : Bytes
  ssmBootstrapSubtreeAnnounce : Bytes
  ssmPublishersStatic : Bytes
  ssmBootstrapRefresh : Int
  deriving DecidableEq, Repr

def sourceFlags (rd : FlagReaders) (e : Surroundings) : Option SourceFlags := do
  let scope ← str e "scope" "MC_SCOPE" (utf8 "site")
  let mcGroupID ← str e "mc-group-id" "MC_GROUP_ID" (utf8 "0x000B")
  let sourceMode ← str e "source-mode" "SOURCE_MODE" (utf8 "asm")
  let bindSource ← str e "bind-source" "BIND_SOURCE" []
  let ssmBootstrapManifest ← str e "ssm-bootstrap-manifest" "SSM_BOOTSTRAP_MANIFEST" []
  let ssmBootstrapBeacon ← str e "ssm-bootstrap-beacon" "SSM_BOOTSTRAP_BEACON" []
  let ssmBootstrapSubtreeAnnounce ← str e "ssm-bootstrap-subtree-announce" "SSM_BOOTSTRAP_SUBTREE_ANNOUNCE" []
  let ssmPublishersStatic ← str e "ssm-publishers-static" "SSM_PUBLISHERS_STATIC" []
  let ssmBootstrapRefresh ← duration rd e "ssm-bootstrap-refresh" "SSM_BOOTSTRAP_REFRESH" (30 * second)
  some ⟨scope, mcGroupID, sourceMode, bindSource, ssmBootstrapManifest, ssmBootstrapBeacon,
    ssmBootstrapSubtreeAnnounce, ssmPublishersStatic, ssmBootstrapRefresh⟩

structure ServeFlags where
  cacheBackend : Bytes
  redisAddr : Bytes
  aerospikeHosts : Bytes
  nackWorkers : Int
  egressIface : Bytes
  proxyEnabled : Bool
  upstreamRetryEndpoints : Bytes
  proxyTimeout : Int
  proxyMaxEndpoints : Int
  proxyDedupWindow : Int
  proxyWorkers : Int
  proxyQueue : Int
  deriving DecidableEq, Repr

def serveFlags (rd : FlagReaders) (e : Surroundings) (numCPU : Int) : Option ServeFlags := do
  let cacheBackend ← str e "cache-backend" "CACHE_BACKEND" (utf8 "memory")
  let redisAddr ← str e "redis-addr" "REDIS_ADDR" []
  let aerospikeHosts ← str e "aerospike-hosts" "AEROSPIKE_HOSTS" []
  let nackWorkers ← int rd e "nack-workers" "NACK_WORKERS" numCPU
  let egressIface ← str e "egress-iface" "EGRESS_IFACE" (utf8 "eth0")
  let proxyEnabled ← bool e "proxy-enabled" "PROXY_ENABLED" false
  let upstreamRetryEndpoints ← str e "upstream-retry-endpoints" "UPSTREAM_RETRY_ENDPOINTS" []
  let proxyTimeout ← duration rd e "proxy-timeout" "PROXY_TIMEOUT" (300 * Proxy.millisecond)
  let proxyMaxEndpoints ← int rd e "proxy-max-endpoints" "PROXY_MAX_ENDPOINTS" 0
  let proxyDedupWindow ← duration rd e "proxy-dedup-window" "PROXY_DEDUP_WINDOW" (60 * second)
  let proxyWorkers ← int rd e "proxy-workers" "PROXY_WORKERS" 4
  let proxyQueue ← int rd e "proxy-queue" "PROXY_QUEUE" 1024
  some ⟨cacheBackend, redisAddr, aerospikeHosts, nackWorkers, egressIface, proxyEnabled, upstreamRetryEndpoints,
    proxyTimeout, proxyMaxEndpoints, proxyDedupWindow, proxyWorkers, proxyQueue⟩

structure BeaconFlags where
  nackPort : Int
  instanceID : Bytes
  beaconEnabled : Bool
  beaconTier : Nat
  beaconPreference : Nat
  beaconInterval : Int
  beaconScope : String
  controlGroupCompat : Bytes
  beaconFlagsUnicast : Bool
  beaconFlagsMulticast : Bool
  beaconFlagsDraining : Bool
  nackAddr : String
  deriving DecidableEq, Repr

def beaconFlags (rd : FlagReaders) (e : Surroundings) : Option BeaconFlags := do
  let nackPort ← int rd e "nack-port" "NACK_PORT" 9300
  let instanceID ← str e "instance" "INSTANCE_ID" []
  let beaconEnabled ← bool e "beacon-enabled" "BEACON_ENABLED" true
  let beaconTier ← uint rd e "beacon-tier" "BEACON_TIER" 0
  let beaconPreference ← uint rd e "beacon-preference" "BEACON_PREFERENCE" 128
  let beaconInterval ← duration rd e "beacon-interval" "BEACON_INTERVAL" (60 * second)
  let beaconScope ← str e "beacon-scope" "BEACON_SCOPE" (utf8 "site")
  let controlGroupCompat ← str e "control-group-compat" "CONTROL_GROUP_COMPAT" (utf8 "asm-only")
  let beaconFlagsUnicast ← bool e "beacon-flags-unicast" "BEACON_FLAGS_UNICAST" false
  let beaconFlagsMulticast ← bool e "beacon-flags-multicast" "BEACON_FLAGS_MULTICAST" true
  let beaconFlagsDraining ← bool e "beacon-flags-draining" "BEACON_FLAGS_DRAINING" false
  let nackAddr ← str e "nack-addr" "NACK_ADDR" []
  some ⟨nackPort, instanceID, beaconEnabled, beaconTier, beaconPreference, beaconInterval, text beaconScope,
    controlGroupCompat, beaconFlagsUnicast, beaconFlagsMulticast, beaconFlagsDraining, text nackAddr⟩

structure Flags where
  ttl : TTLFlags
  ingress : IngressFlags
  source : SourceFlags
  serve : ServeFlags
  beacon : BeaconFlags
  deriving DecidableEq, Repr

/- flag.Parse ends the process at a value that does not parse. -/
def parseFlags (rd : FlagReaders) (e : Surroundings) (numCPU : Int) : Option Flags := do
  let ttl ← ttlFlags rd e
  let ingress ← ingressFlags rd e
  let source ← sourceFlags rd e
  let serve ← serveFlags rd e numCPU
  let beacon ← beaconFlags rd e
  some ⟨ttl, ingress, source, serve, beacon⟩

structure AddrPort where
  addr : Bytes
  zone : Bytes
  port : UInt16
  deriving DecidableEq, Repr

def loopback6 : Bytes := List.replicate 15 0 ++ [1]

def AddrPort.is4 (ap : AddrPort) : Bool := ap.addr.length = 4

def AddrPort.is4In6 (ap : AddrPort) : Bool := ap.addr.length = 16 && ap.addr.take 12 = v4InV6

def AddrPort.isLoopback (ap : AddrPort) : Bool :=
  if ap.is4 then byteAt ap.addr 0 = 127
  else if ap.is4In6 then byteAt ap.addr 12 = 127
  else ap.addr = loopback6

/- The host, the standard library and the shard package, as far as Load asks them. The
order in which Go visits the map of lifetimes is the run's. -/
structure Host where
  linux : Bool
  numCPU : Int
  cpus : 0 < numCPU
  ttlOrder : List TTLName
  ttlEvery : ∀ name, name ∈ ttlOrder
  interfaceByName : Bytes → Except String Unit
  splitHostPort : Bytes → Except String Unit
  parseAddrPort : Bytes → Except String AddrPort
  parseScope : Bytes → Except String Nat
  ssmPrefix : Nat → Except String UInt16
  toLower : Bytes → Bytes
  beacon : Advert.Host

inductive Mode where | asm | ssm deriving DecidableEq, Repr
inductive Backend where | memory | redis | aerospike deriving DecidableEq, Repr

structure Config where
  listenPort : Int
  shardBits : Nat
  numGroups : UInt32
  mcScope : Bytes
  mcPrefix : UInt16
  mcGroupID : UInt16
  teeListen : Option AddrPort
  mcJoinEnabled : Bool
  sourceMode : Mode
  bindSource : Bytes
  ssmBootstrapManifest : List Bytes
  ssmBootstrapBeacon : List Bytes
  ssmBootstrapSubtreeAnn : List Bytes
  ssmPublishersStatic : List Bytes
  ssmBootstrapRefresh : Int
  cacheBackend : Backend
  redisAddr : Bytes
  aeroHosts : List Bytes
  cacheTTL : Int
  ttls : TTLConfig
  beefEnabled : Bool
  beefShardBits : Nat
  subtreeDataEnabled : Bool
  numWorkers : Int
  queueDepth : Int
  ingressProcs : Int
  nackWorkers : Int
  egressIfaces : List Bytes
  proxyEnabled : Bool
  upstreamRetryEndpoints : List Bytes
  proxyTimeout : Int
  proxyMaxEndpoints : Int
  proxyDedupWindow : Int
  proxyWorkers : Int
  proxyQueue : Int
  beacon : Advert.Config
  deriving DecidableEq, Repr

inductive LoadError where
  | shardBits (got : Nat)
  | beefShardBits (got : Nat)
  | unknownScope (got : Bytes)
  | ssmScope (err : String)
  | ssmPrefix (err : String)
  | sourceMode (got : Bytes)
  | refresh
  | bindSource (got : Bytes)
  | noSources
  | publishersStatic (entries : Nat)
  | groupID (err : Settings.LoadError)
  | teeAddr (got : Bytes) (err : String)
  | teeLoopback (got : Bytes)
  | teePort (got : Bytes)
  | noFeed
  | cacheBackend (got : Bytes)
  | redisAddr
  | aerospikeHosts
  | ttl (name : TTLName) (got : Int)
  | queueDepth (got : Int)
  | ingressProcs (got : Int)
  | egressIface (got : Bytes) (err : String)
  | noEgress
  | noUpstream
  | upstream (got : Bytes) (err : String)
  | proxyTimeout (got : Int)
  | proxyMaxEndpoints (got : Int)
  | proxyQueue (got : Int)
  | beacon (err : Advert.LoadError)
  deriving DecidableEq, Repr

def LoadError.text (h : Host) (quote : Bytes → String) : LoadError → String
  | .shardBits got => "shard-bits must be in [1, 12], got " ++ toString got
  | .beefShardBits got => "beef-shard-bits must be in [0, 12], got " ++ toString got
  | .unknownScope got => "unknown scope " ++ quote got ++ "; valid values: link, site, org, global"
  | .ssmScope err => "source-mode=ssm requires -scope site|global: " ++ err
  | .ssmPrefix err => err
  | .sourceMode got => "invalid source-mode " ++ quote got ++ " (asm|ssm)"
  | .refresh => "ssm-bootstrap-refresh must be > 0"
  | .bindSource got => "invalid -bind-source " ++ quote got ++ ": must be an IPv6 literal"
  | .noSources =>
    "source-mode=ssm requires at least one of -ssm-bootstrap-manifest/-beacon/-subtree-announce or " ++
      "-ssm-publishers-static"
  | .publishersStatic entries =>
    "ssm-publishers-static has " ++ toString entries ++
      " entries; production at this size must use manifest discovery (set -ssm-bootstrap-manifest)"
  | .groupID err => err.text quote
  | .teeAddr got err => "invalid -tee-listen " ++ quote got ++ ": " ++ err
  | .teeLoopback got =>
    "-tee-listen " ++ quote got ++ " must be an IPv6 loopback literal such as [::1]:9002 (the tee envelope asserts " ++
      "frame sources, and the socket is AF_INET6)"
  | .teePort got => "-tee-listen " ++ quote got ++ " must carry an explicit port"
  | .noFeed =>
    "mc-join-enabled=false requires -tee-listen: with neither multicast join nor tee ingest the cache never fills " ++
      "and every NACK is answered MISS"
  | .cacheBackend got => "cache-backend must be 'memory', 'redis', or 'aerospike', got " ++ quote got
  | .redisAddr => "redis-addr required when cache-backend=redis"
  | .aerospikeHosts => "aerospike-hosts required when cache-backend=aerospike"
  | .ttl name got => name.flag ++ " must be > 0, got " ++ h.beacon.durationString got
  | .queueDepth got => "ingress-queue-depth must be > 0, got " ++ toString got
  | .ingressProcs got => "ingress-procs must be > 0, got " ++ toString got
  | .egressIface got err => "egress interface " ++ quote got ++ " not found: " ++ err
  | .noEgress => "at least one egress interface must be specified via -egress-iface"
  | .noUpstream => "proxy-enabled requires at least one -upstream-retry-endpoints (host:port)"
  | .upstream got err => "invalid -upstream-retry-endpoints entry " ++ quote got ++ ": " ++ err
  | .proxyTimeout got => "proxy-timeout must be > 0, got " ++ h.beacon.durationString got
  | .proxyMaxEndpoints got => "proxy-max-endpoints must be >= 0, got " ++ toString got
  | .proxyQueue got => "proxy-queue must be > 0, got " ++ toString got
  | .beacon err => err.text h.beacon

def splitCSV (s : Bytes) : List Bytes := if s = [] then [] else tokens s

def checkEach {α ε : Type} (check : α → Except ε Unit) : List α → Except ε Unit
  | [] => .ok ()
  | a :: rest => do
    check a
    checkEach check rest

def checkShards (f : IngressFlags) : Except LoadError Unit :=
  if f.shardBits < 1 ∨ 12 < f.shardBits then .error (.shardBits f.shardBits)
  else if 12 < f.beefShardBits then .error (.beefShardBits f.beefShardBits)
  else .ok ()

def mcScopes (scope : Bytes) : Option UInt16 :=
  if scope = utf8 "link" then some 0xFF02
  else if scope = utf8 "site" then some 0xFF05
  else if scope = utf8 "org" then some 0xFF08
  else if scope = utf8 "global" then some 0xFF0E
  else none

def resolvePrefix (h : Host) (f : SourceFlags) : Except LoadError (Mode × UInt16) :=
  if h.toLower f.sourceMode = utf8 "asm" then
    match mcScopes f.scope with
    | none => .error (.unknownScope f.scope)
    | some bits => .ok (.asm, bits)
  else if h.toLower f.sourceMode = utf8 "ssm" then do
    let scope ← (h.parseScope f.scope).mapError .ssmScope
    let bits ← (h.ssmPrefix scope).mapError .ssmPrefix
    .ok (.ssm, bits)
  else .error (.sourceMode f.sourceMode)

def checkRefresh (f : SourceFlags) : Except LoadError Unit :=
  if f.ssmBootstrapRefresh ≤ 0 then .error .refresh else .ok ()

def checkBindSource (h : Host) (bindSource : Bytes) : Except LoadError Unit :=
  if bindSource = [] then .ok ()
  else match h.beacon.parseIP (text bindSource) with
    | none => .error (.bindSource bindSource)
    | some ip => if to4 ip = none then .ok () else .error (.bindSource bindSource)

def checkLists (f : SourceFlags) : Except LoadError Unit :=
  if splitCSV f.ssmBootstrapManifest = [] ∧ splitCSV f.ssmBootstrapBeacon = [] ∧
      splitCSV f.ssmBootstrapSubtreeAnnounce = [] ∧ splitCSV f.ssmPublishersStatic = [] then .error .noSources
  else if 16 < (splitCSV f.ssmPublishersStatic).length ∧ splitCSV f.ssmBootstrapManifest = [] then
    .error (.publishersStatic (splitCSV f.ssmPublishersStatic).length)
  else .ok ()

def checkSSM (h : Host) (f : SourceFlags) : Mode → Except LoadError Unit
  | .asm => .ok ()
  | .ssm => do
    checkBindSource h f.bindSource
    checkLists f

def readGroupID (given : Bytes) : Except LoadError UInt16 :=
  (parseGroupID given).mapError fun err => .groupID ⟨given, err⟩

def readTee (h : Host) (given : Bytes) : Except LoadError (Option AddrPort) :=
  if given = [] then .ok none
  else do
    let ap ← (h.parseAddrPort given).mapError (.teeAddr given)
    if !ap.isLoopback || ap.is4 || ap.is4In6 then .error (.teeLoopback given)
    else if ap.port = 0 then .error (.teePort given)
    else .ok (some ap)

def checkFed (mcJoinEnabled : Bool) (tee : Option AddrPort) : Except LoadError Unit :=
  if !mcJoinEnabled && tee.isNone then .error .noFeed else .ok ()

def readBackend (f : ServeFlags) : Except LoadError Backend :=
  if f.cacheBackend = utf8 "memory" then .ok .memory
  else if f.cacheBackend = utf8 "redis" then
    if f.redisAddr = [] then .error .redisAddr else .ok .redis
  else if f.cacheBackend = utf8 "aerospike" then
    if tokens f.aerospikeHosts = [] then .error .aerospikeHosts else .ok .aerospike
  else .error (.cacheBackend f.cacheBackend)

def checkTTLs (h : Host) (ttls : TTLConfig) : Except LoadError Unit :=
  checkEach (fun name => if name.of ttls ≤ 0 then .error (.ttl name (name.of ttls)) else .ok ()) h.ttlOrder

/- Several workers would cache every frame several times where multicast reaches every
socket of the port. -/
def ingressWorkers (h : Host) (n : Int) : Int := if n < 1 ∨ h.linux = false then 1 else n

def checkPipeline (f : IngressFlags) : Except LoadError Unit :=
  if f.ingressQueueDepth ≤ 0 then .error (.queueDepth f.ingressQueueDepth)
  else if f.ingressProcs ≤ 0 then .error (.ingressProcs f.ingressProcs)
  else .ok ()

def nackWorkers (h : Host) (n : Int) : Int := if n ≤ 0 then h.numCPU else n

def readEgress (h : Host) (given : Bytes) : Except LoadError (List Bytes) := do
  checkEach (fun name => (h.interfaceByName name).mapError (.egressIface name)) (tokens given)
  if tokens given = [] then .error .noEgress else .ok (tokens given)

def checkProxy (h : Host) (f : ServeFlags) : Except LoadError Unit :=
  if splitCSV f.upstreamRetryEndpoints = [] then .error .noUpstream
  else do
    checkEach (fun ep => (h.splitHostPort ep).mapError (.upstream ep)) (splitCSV f.upstreamRetryEndpoints)
    if f.proxyTimeout ≤ 0 then .error (.proxyTimeout f.proxyTimeout)
    else if f.proxyMaxEndpoints < 0 then .error (.proxyMaxEndpoints f.proxyMaxEndpoints)
    else if f.proxyQueue ≤ 0 then .error (.proxyQueue f.proxyQueue)
    else .ok ()

def readProxy (h : Host) (f : ServeFlags) : Except LoadError Int :=
  if f.proxyEnabled then do
    checkProxy h f
    .ok (if f.proxyWorkers ≤ 0 then 4 else f.proxyWorkers)
  else .ok f.proxyWorkers

def beaconPart (h : Host) (f : Flags) (mode : Mode) : Advert.Config where
  nackPort := f.beacon.nackPort
  instanceID := f.beacon.instanceID
  proxyEnabled := f.serve.proxyEnabled
  ssm := mode = .ssm
  beaconEnabled := f.beacon.beaconEnabled
  controlGroupCompat := text (h.toLower (trimSpace f.beacon.controlGroupCompat))
  beaconTier := f.beacon.beaconTier
  beaconPreference := f.beacon.beaconPreference
  beaconInterval := f.beacon.beaconInterval
  beaconScope := f.beacon.beaconScope
  beaconScopeByte := 0
  beaconFlagsUnicast := f.beacon.beaconFlagsUnicast
  beaconFlagsMulticast := f.beacon.beaconFlagsMulticast
  beaconFlagsDraining := f.beacon.beaconFlagsDraining
  beaconNACKAddr := f.beacon.nackAddr

structure Findings where
  mode : Mode
  bits : UInt16
  mcGroupID : UInt16
  tee : Option AddrPort
  backend : Backend
  egress : List Bytes
  proxyWorkers : Int
  beacon : Advert.Config
  deriving DecidableEq, Repr

def assemble (h : Host) (f : Flags) (found : Findings) : Config where
  listenPort := f.ingress.listenPort
  shardBits := f.ingress.shardBits
  numGroups := 1 <<< UInt32.ofNat f.ingress.shardBits
  mcScope := f.source.scope
  mcPrefix := found.bits
  mcGroupID := found.mcGroupID
  teeListen := found.tee
  mcJoinEnabled := f.ingress.mcJoinEnabled
  sourceMode := found.mode
  bindSource := f.source.bindSource
  ssmBootstrapManifest := splitCSV f.source.ssmBootstrapManifest
  ssmBootstrapBeacon := splitCSV f.source.ssmBootstrapBeacon
  ssmBootstrapSubtreeAnn := splitCSV f.source.ssmBootstrapSubtreeAnnounce
  ssmPublishersStatic := splitCSV f.source.ssmPublishersStatic
  ssmBootstrapRefresh := f.source.ssmBootstrapRefresh
  cacheBackend := found.backend
  redisAddr := f.serve.redisAddr
  aeroHosts := tokens f.serve.aerospikeHosts
  cacheTTL := f.ttl.cacheTTL
  ttls := resolveCacheTTLs f.ttl
  beefEnabled := f.ingress.beefEnabled
  beefShardBits := f.ingress.beefShardBits
  subtreeDataEnabled := f.ingress.subtreeDataEnabled
  numWorkers := ingressWorkers h f.ingress.ingressWorkers
  queueDepth := f.ingress.ingressQueueDepth
  ingressProcs := f.ingress.ingressProcs
  nackWorkers := nackWorkers h f.serve.nackWorkers
  egressIfaces := found.egress
  proxyEnabled := f.serve.proxyEnabled
  upstreamRetryEndpoints := splitCSV f.serve.upstreamRetryEndpoints
  proxyTimeout := f.serve.proxyTimeout
  proxyMaxEndpoints := f.serve.proxyMaxEndpoints
  proxyDedupWindow := f.serve.proxyDedupWindow
  proxyWorkers := found.proxyWorkers
  proxyQueue := f.serve.proxyQueue
  beacon := found.beacon

def load (h : Host) (f : Flags) : Except LoadError Config := do
  checkShards f.ingress
  let (mode, bits) ← resolvePrefix h f.source
  checkRefresh f.source
  checkSSM h f.source mode
  let mcGroupID ← readGroupID f.source.mcGroupID
  let tee ← readTee h f.ingress.teeListen
  checkFed f.ingress.mcJoinEnabled tee
  let backend ← readBackend f.serve
  checkTTLs h (resolveCacheTTLs f.ttl)
  checkPipeline f.ingress
  let egress ← readEgress h f.serve.egressIface
  let proxyWorkers ← readProxy h f.serve
  let beacon ← (Advert.load h.beacon (beaconPart h f mode)).mapError .beacon
  .ok (assemble h f ⟨mode, bits, mcGroupID, tee, backend, egress, proxyWorkers, beacon⟩)

structure Passed (h : Host) (f : Flags) (found : Findings) : Prop where
  shards : checkShards f.ingress = .ok ()
  resolved : resolvePrefix h f.source = .ok (found.mode, found.bits)
  refresh : checkRefresh f.source = .ok ()
  ssm : checkSSM h f.source found.mode = .ok ()
  groupID : readGroupID f.source.mcGroupID = .ok found.mcGroupID
  tee : readTee h f.ingress.teeListen = .ok found.tee
  fed : checkFed f.ingress.mcJoinEnabled found.tee = .ok ()
  backend : readBackend f.serve = .ok found.backend
  ttls : checkTTLs h (resolveCacheTTLs f.ttl) = .ok ()
  pipeline : checkPipeline f.ingress = .ok ()
  egress : readEgress h f.serve.egressIface = .ok found.egress
  proxy : readProxy h f.serve = .ok found.proxyWorkers
  beacon : Advert.load h.beacon (beaconPart h f found.mode) = .ok found.beacon

section Lifetimes
variable {rd : FlagReaders} {e : Surroundings} {f : TTLFlags} {name : TTLName}

/- BEEF has no share in the fallback, as if it were always given. -/
def TTLFlags.own (f : TTLFlags) : TTLName → Bool
  | .tx => f.txExplicit
  | .block => f.blockExplicit
  | .subtree => f.subtreeExplicit
  | .anchor => f.anchorExplicit
  | .beef => true

theorem resolvedAt (f : TTLFlags) (name : TTLName) :
    name.of (resolveCacheTTLs f) = if f.cacheTTLExplicit && !f.own name then f.cacheTTL else name.of f.ttls := by
  cases given : f.cacheTTLExplicit with
  | false => simp [resolveCacheTTLs, given]
  | true => cases name <;> simp [resolveCacheTTLs, given, TTLName.of, TTLFlags.own]

structure TTLsRead (rd : FlagReaders) (e : Surroundings) (f : TTLFlags) : Prop where
  cacheTTL : duration rd e "cache-ttl" "CACHE_TTL" (60 * second) = some f.cacheTTL
  ttls : ∀ name, ttlFlag rd e name = some (name.of f.ttls)
  cacheTTLExplicit : f.cacheTTLExplicit = explicit e "cache-ttl" "CACHE_TTL"
  own : ∀ name, f.own name = (explicit e name.flag name.key || decide (name = .beef))

theorem ttlsRead (parsed : ttlFlags rd e = some f) : TTLsRead rd e f := by
  simp only [ttlFlags, Option.bind_eq_bind, Option.bind_eq_some_iff, Option.some.injEq] at parsed
  obtain ⟨cacheTTL, read, tx, readTx, block, readBlock, subtree, readSubtree, anchor, readAnchor, beef, readBeef,
    rfl⟩ := parsed
  refine ⟨read, ?_, rfl, ?_⟩
  · intro name
    cases name
    case tx => exact readTx
    case block => exact readBlock
    case subtree => exact readSubtree
    case anchor => exact readAnchor
    case beef => exact readBeef
  · intro name
    cases name <;> simp [TTLFlags.own]

theorem notExplicit {flag key : String} (quiet : explicit e flag key = false) : Unset e flag key := by
  simp only [explicit, Bool.or_eq_false_iff, decide_eq_false_iff_not, not_not, List.any_eq_false,
    decide_eq_true_eq] at quiet
  exact ⟨quiet.2, quiet.1⟩

end Lifetimes

/- Where the lifetime of a class comes from. The variable of a class counts as given
when it holds anything at all, even what is no duration. -/
structure Lifetime (rd : FlagReaders) (e : Surroundings) (ttls : TTLConfig) (name : TTLName) : Prop where
  given : explicit e name.flag name.key = true → ttlFlag rd e name = some (name.of ttls)
  shared : explicit e name.flag name.key = false → name ≠ .beef → explicit e "cache-ttl" "CACHE_TTL" = true →
    duration rd e "cache-ttl" "CACHE_TTL" (60 * second) = some (name.of ttls)
  fallback : explicit e name.flag name.key = false →
    (name = .beef ∨ explicit e "cache-ttl" "CACHE_TTL" = false) → name.of ttls = name.fallback
  unread : e.getenv name.key ≠ [] → rd.parseDuration (e.getenv name.key) = none →
    (∀ arg ∈ e.args, arg.1 ≠ name.flag) → name.of ttls = name.fallback

theorem lifetimeOf {rd : FlagReaders} {e : Surroundings} {f : TTLFlags} (parsed : ttlFlags rd e = some f)
    (name : TTLName) : Lifetime rd e (resolveCacheTTLs f) name := by
  have read := ttlsRead parsed
  have kept : f.own name = true → name.of (resolveCacheTTLs f) = name.of f.ttls := by
    intro own
    simp [resolvedAt, own]
  constructor
  case given =>
    intro given
    rw [kept (by simp [read.own, given])]
    exact read.ttls name
  case shared =>
    intro quiet other shared
    have taken : name.of (resolveCacheTTLs f) = f.cacheTTL := by
      simp [resolvedAt, read.own, read.cacheTTLExplicit, quiet, other, shared]
    rw [taken]
    exact read.cacheTTL
  case fallback =>
    intro quiet alone
    have unset : ttlFlag rd e name = some name.fallback := (notExplicit quiet).value rd.parseDuration name.fallback
    have same : name.of (resolveCacheTTLs f) = name.of f.ttls := by
      rcases alone with rfl | alone
      · exact kept (by simp [read.own])
      · simp [resolvedAt, read.cacheTTLExplicit, alone]
    rw [same]
    exact Option.some.inj ((read.ttls name).symm.trans unset)
  case unread =>
    intro some bad quiet
    have own : f.own name = true := by simp [read.own, explicit, some]
    have none : e.args.filter (·.1 = name.flag) = [] := by
      apply List.filter_eq_nil_iff.mpr
      intro arg mem
      simpa using quiet arg mem
    have kept' : ttlFlag rd e name = .some name.fallback := by
      simp [ttlFlag, duration, flagVar, none, envDuration, envValue, some, bad]
    rw [kept own]
    exact Option.some.inj ((read.ttls name).symm.trans kept')

section Passing
variable {h : Host} {f : Flags} {c : Config} {found : Findings}

theorem mappedOk {α ε ε' : Type} {x : Except ε α} {g : ε → ε'} {a : α} :
    x.mapError g = .ok a ↔ x = .ok a := by
  cases x <;> simp [Except.mapError]

theorem loadPassed (ok : load h f = .ok c) : ∃ found, Passed h f found ∧ c = assemble h f found := by
  rw [load] at ok
  obtain ⟨_, shards, ok⟩ := boundOk ok
  obtain ⟨⟨mode, bits⟩, resolved, ok⟩ := boundOk ok
  obtain ⟨_, refresh, ok⟩ := boundOk ok
  obtain ⟨_, ssm, ok⟩ := boundOk ok
  obtain ⟨mcGroupID, groupID, ok⟩ := boundOk ok
  obtain ⟨tee, readTee, ok⟩ := boundOk ok
  obtain ⟨_, fed, ok⟩ := boundOk ok
  obtain ⟨backend, readBackend, ok⟩ := boundOk ok
  obtain ⟨_, ttls, ok⟩ := boundOk ok
  obtain ⟨_, pipeline, ok⟩ := boundOk ok
  obtain ⟨egress, readEgress, ok⟩ := boundOk ok
  obtain ⟨proxyWorkers, readProxy, ok⟩ := boundOk ok
  obtain ⟨beacon, readBeacon, ok⟩ := boundOk ok
  cases ok
  exact ⟨⟨mode, bits, mcGroupID, tee, backend, egress, proxyWorkers, beacon⟩,
    ⟨shards, resolved, refresh, ssm, groupID, readTee, fed, readBackend, ttls, pipeline, readEgress, readProxy,
      mappedOk.mp readBeacon⟩, rfl⟩

theorem passedLoads (passed : Passed h f found) : load h f = .ok (assemble h f found) := by
  simp only [load, passed.shards, passed.resolved, passed.refresh, passed.ssm, passed.groupID, passed.tee,
    passed.fed, passed.backend, passed.ttls, passed.pipeline, passed.egress, passed.proxy, bind, Except.bind,
    mappedOk.mpr passed.beacon]

theorem eachPassed {α ε : Type} {check : α → Except ε Unit} {as : List α} :
    checkEach check as = .ok () ↔ ∀ a ∈ as, check a = .ok () := by
  induction as with
  | nil => simp [checkEach]
  | cons a rest ih =>
    rw [List.forall_mem_cons, ← ih]
    cases here : check a with
    | error e => simp [checkEach, here, bind, Except.bind]
    | ok u => simp [checkEach, here, bind, Except.bind]

theorem lifetimesPositive (passed : Passed h f found) (name : TTLName) : 0 < name.of (resolveCacheTTLs f.ttl) := by
  have here := eachPassed.mp passed.ttls name (h.ttlEvery name)
  split at here
  · cases here
  · rename_i positive
    exact Int.not_le.mp positive

end Passing

def labHost : Host where
  linux := true
  numCPU := 4
  cpus := by decide
  ttlOrder := [.block, .tx, .beef, .anchor, .subtree]
  ttlEvery name := by cases name <;> decide
  interfaceByName name := if name = utf8 "eth0" then .ok () else .error "no such network interface"
  splitHostPort _ := .ok ()
  parseAddrPort given :=
    if given = utf8 "[::1]:9002" then .ok ⟨loopback6, [], 9002⟩ else .error "not an ip:port"
  parseScope scope := if scope = utf8 "site" then .ok 5 else .error "unknown scope"
  ssmPrefix _ := .ok 0xFF35
  toLower s := s.map Settings.toLower
  beacon := Advert.lab

def labReaders : FlagReaders where
  parseFloat _ := none
  parseDuration s := if s = utf8 "7s" then some (7 * second) else if s = utf8 "9s" then some (9 * second) else none
  atoi _ := none
  parseInt _ := none
  parseUint _ := none

def mixed : Surroundings where
  getenv key :=
    if key = "CACHE_TTL" then utf8 "7s" else if key = "CACHE_TTL_BLOCK" then utf8 "ten minutes" else []
  args := [("cache-ttl-tx", utf8 "9s")]

/-- Each class lives as long as its own flag or variable says, else as CACHE_TTL does where
that was given, else by its default, and BEEF never by CACHE_TTL; a configuration with a
lifetime that is not positive does not load. -/
theorem lifetimesResolved {rd : FlagReaders} {e : Surroundings} {numCPU : Int} {h : Host} {f : Flags} {c : Config}
    (parsed : parseFlags rd e numCPU = some f) (ok : load h f = .ok c) (name : TTLName) :
    Lifetime rd e c.ttls name ∧ 0 < name.of c.ttls := by
  simp only [parseFlags, Option.bind_eq_bind, Option.bind_eq_some_iff, Option.some.injEq] at parsed
  obtain ⟨ttl, read, ingress, -, source, -, serve, -, beacon, -, rfl⟩ := parsed
  obtain ⟨found, passed, rfl⟩ := loadPassed ok
  exact ⟨lifetimeOf read name, lifetimesPositive passed name⟩

theorem lifetimesResolvedMixed : ∃ f c, parseFlags labReaders mixed 4 = some f ∧ load labHost f = .ok c ∧
    (∀ name, Lifetime labReaders mixed c.ttls name ∧ 0 < name.of c.ttls) ∧
    c.ttls = ⟨9 * second, 10 * minute, 7 * second, 7 * second, 60 * second⟩ := by
  refine ⟨_, _, rfl, rfl, fun name => ?_, rfl⟩
  exact @lifetimesResolved labReaders mixed 4 labHost _ _ rfl rfl name

end RetryEndpoint.Load
