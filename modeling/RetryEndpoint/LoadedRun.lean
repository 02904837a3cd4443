import RetryEndpoint.Load
import RetryEndpoint.BeaconRun
import RetryEndpoint.Pipeline
import RetryEndpoint.Readiness
import RetryEndpoint.GroupID

/-! What run may rely on once config.Load has returned: the configurations its parts
carry their invariants in can be built, and nothing that Load looked at is refused later.
The defaults the pipeline keeps for a value that is not positive are never taken, nor are
the proxy's for its timeout, workers and queue; Load leaves the dedup window and the
number of endpoints to the proxy's own defaults. -/
namespace RetryEndpoint.Load
open BigEndian Texts Settings CommaLists Cache
open Advert (to4 boundOk)

section Checks
variable {h : Host} {f : Flags} {found : Findings}

theorem shardsIn {f : IngressFlags} (ok : checkShards f = .ok ()) :
    (1 ≤ f.shardBits ∧ f.shardBits ≤ 12) ∧ f.beefShardBits ≤ 12 := by
  simp only [checkShards] at ok
  split at ok <;> try contradiction
  split at ok <;> try contradiction
  omega

theorem teeLocal {given : Bytes} {ap : AddrPort} (ok : readTee h given = .ok (some ap)) :
    ap.addr = loopback6 ∧ ap.port ≠ 0 := by
  simp only [readTee] at ok
  split at ok
  · cases ok
  · obtain ⟨read, -, ok⟩ := boundOk ok
    split at ok <;> try contradiction
    split at ok <;> try contradiction
    rename_i local' port
    cases ok
    simp only [Bool.or_eq_true, Bool.not_eq_true', not_or, Bool.not_eq_true, Bool.not_eq_false] at local'
    obtain ⟨⟨loops, long⟩, own⟩ := local'
    refine ⟨?_, port⟩
    simpa [AddrPort.isLoopback, long, own] using loops

theorem fedOr {join : Bool} {tee : Option AddrPort} (ok : checkFed join tee = .ok ()) (off : join = false) :
    tee.isSome = true := by
  cases tee with
  | none => simp [checkFed, off] at ok
  | some ap => rfl

theorem bindLiteral {bindSource : Bytes} (ok : checkBindSource h bindSource = .ok ()) (given : bindSource ≠ []) :
    ∃ ip, h.beacon.parseIP (text bindSource) = some ip ∧ to4 ip = none := by
  simp only [checkBindSource, if_neg given] at ok
  split at ok
  · cases ok
  · rename_i ip parsed
    split at ok
    · rename_i six
      exact ⟨ip, parsed, six⟩
    · cases ok

theorem listsGiven {f : SourceFlags} (ok : checkLists f = .ok ()) :
    (splitCSV f.ssmBootstrapManifest ≠ [] ∨ splitCSV f.ssmBootstrapBeacon ≠ [] ∨
      splitCSV f.ssmBootstrapSubtreeAnnounce ≠ [] ∨ splitCSV f.ssmPublishersStatic ≠ []) ∧
      (16 < (splitCSV f.ssmPublishersStatic).length → splitCSV f.ssmBootstrapManifest ≠ []) := by
  simp only [checkLists] at ok
  split at ok <;> try contradiction
  split at ok <;> try contradiction
  rename_i some few
  exact ⟨by tauto, fun many none => few ⟨many, none⟩⟩

theorem pipelinePositive {f : IngressFlags} (ok : checkPipeline f = .ok ()) :
    0 < f.ingressQueueDepth ∧ 0 < f.ingressProcs := by
  simp only [checkPipeline] at ok
  split at ok <;> try contradiction
  split at ok <;> try contradiction
  omega

theorem egressFound {given : Bytes} {names : List Bytes} (ok : readEgress h given = .ok names) :
    names = tokens given ∧ names ≠ [] ∧ ∀ name ∈ names, h.interfaceByName name = .ok () := by
  obtain ⟨_, all, ok⟩ := boundOk ok
  split at ok <;> try contradiction
  rename_i some
  cases ok
  exact ⟨rfl, some, fun name mem => mappedOk.mp (eachPassed.mp all name mem)⟩

structure ProxyChecked (h : Host) (f : ServeFlags) : Prop where
  upstreams : splitCSV f.upstreamRetryEndpoints ≠ []
  targets : ∀ ep ∈ splitCSV f.upstreamRetryEndpoints, h.splitHostPort ep = .ok ()
  timeout : 0 < f.proxyTimeout
  maxEndpoints : 0 ≤ f.proxyMaxEndpoints
  queue : 0 < f.proxyQueue

theorem proxyChecked {f : ServeFlags} (ok : checkProxy h f = .ok ()) : ProxyChecked h f := by
  simp only [checkProxy] at ok
  split at ok <;> try contradiction
  rename_i some
  obtain ⟨_, all, ok⟩ := boundOk ok
  split at ok <;> try contradiction
  split at ok <;> try contradiction
  split at ok <;> try contradiction
  exact ⟨some, fun ep mem => mappedOk.mp (eachPassed.mp all ep mem), by omega, by omega, by omega⟩

theorem proxyRead {f : ServeFlags} {workers : Int} (ok : readProxy h f = .ok workers) (on : f.proxyEnabled = true) :
    ProxyChecked h f ∧ 0 < workers := by
  rw [readProxy, if_pos on] at ok
  obtain ⟨_, checked, ok⟩ := boundOk ok
  cases ok
  refine ⟨proxyChecked checked, ?_⟩
  split <;> omega

end Checks

def worker (c : Config) (cache : Store) : Ingress.Worker := ⟨cache, c.ttls, c.queueDepth, c.ingressProcs⟩

def proxyConfig (c : Config) (dedup : Option Store) (cache : Store) (retrans : Retransmit.Retransmitter) :
    Proxy.Config where
  upstreams := c.upstreamRetryEndpoints.map text
  timeout := c.proxyTimeout
  maxEndpoints := c.proxyMaxEndpoints
  dedupWindow := c.proxyDedupWindow
  workers := c.proxyWorkers
  queueDepth := c.proxyQueue
  dedup := dedup
  cache := cache
  retrans := retrans
  ttls := c.ttls
  multicast := c.beacon.beaconFlagsMulticast
  unicast := c.beacon.beaconFlagsUnicast

structure ProcessOf (c : Config) (engine : Wire.Engine) (drains : Bool) (p : Process.Config) : Prop where
  engine : p.engine = engine
  drains : p.drains = drains
  shardBits : p.groups.shardBits = c.shardBits
  beefShardBits : p.groups.beefShardBits = c.beefShardBits
  numGroups : p.groups.numGroups = c.numGroups
  numWorkers : p.numWorkers = c.numWorkers
  mcJoinEnabled : p.mcJoinEnabled = c.mcJoinEnabled
  teeListen : p.teeListen = c.teeListen.isSome
  beaconEnabled : p.beaconEnabled = c.beacon.beaconEnabled

structure Starts (h : Host) (c : Config) : Prop where
  process : ∀ engine drains, ∃ p, ProcessOf c engine drains p ∧ 0 < p.feeds
  oneSocket : h.linux = false → c.numWorkers = 1
  tee : ∀ ap, c.teeListen = some ap → ap.addr = loopback6 ∧ ap.port ≠ 0
  sources : c.sourceMode = .ssm → ∃ lists : OwnSource.Lists,
    lists.bootstrapManifest = c.ssmBootstrapManifest.map text ∧
      lists.bootstrapBeacon = c.ssmBootstrapBeacon.map text ∧
      lists.bootstrapSubtreeAnn = c.ssmBootstrapSubtreeAnn.map text ∧
      lists.publishersStatic = c.ssmPublishersStatic.map text
  bound : c.sourceMode = .ssm → c.bindSource ≠ [] →
    ∃ ip, h.beacon.parseIP (text c.bindSource) = some ip ∧ to4 ip = none
  pipeline : ∀ cache, (Pipeline.depth (worker c cache) : Int) = c.queueDepth ∧
    (Pipeline.procs (worker c cache) : Int) = c.ingressProcs
  stored : ∀ lib raw, 0 < Ingress.classTTL lib c.ttls raw
  recovered : ∀ ver, 0 < Proxy.ttlFor c.ttls ver
  answers : 0 < c.nackWorkers
  egress : ∃ first rest, c.egressIfaces = first :: rest ∧ ∀ name ∈ c.egressIfaces, h.interfaceByName name = .ok ()
  proxy : c.proxyEnabled = true → ∀ dedup cache retrans,
    let client := (Proxy.new (proxyConfig c dedup cache retrans)).cfg
    client.timeout = c.proxyTimeout ∧ client.workers = c.proxyWorkers ∧ client.queueDepth = c.proxyQueue ∧
      0 < client.maxEndpoints
  beacon : c.beacon.beaconEnabled = true → ∀ ip, Advert.pickBeaconNACKAddr h.beacon c.beacon.beaconNACKAddr = some ip →
    ∃ s, BeaconRun.sender h.beacon c.beacon c.mcGroupID = some s

section Starting
variable {h : Host} {f : Flags} {found : Findings}

theorem groupsCount {bits : Nat} (narrow : bits ≤ 12) : UInt32.ofNat (2 ^ bits) = 1 <<< UInt32.ofNat bits := by
  revert bits
  decide

theorem processMade (passed : Passed h f found) (engine : Wire.Engine) (drains : Bool) :
    ∃ p, ProcessOf (assemble h f found) engine drains p ∧ 0 < p.feeds := by
  obtain ⟨narrow, beefNarrow⟩ := shardsIn passed.shards
  let groups : Groups.Config := ⟨f.ingress.shardBits, f.ingress.beefShardBits, f.ingress.subtreeDataEnabled,
    f.ingress.beefEnabled, f.ingress.listenPort.toNat, narrow, beefNarrow⟩
  let p : Process.Config := ⟨groups, engine, ingressWorkers h f.ingress.ingressWorkers, f.ingress.mcJoinEnabled,
    found.tee.isSome, found.beacon.beaconEnabled, drains, fedOr passed.fed⟩
  refine ⟨p, ⟨rfl, rfl, rfl, rfl, groupsCount narrow.2, rfl, rfl, rfl, rfl⟩, ?_⟩
  rw [Process.Config.feeds, Process.Config.workers]
  split
  · have parts := Readiness.partsPositive p
    omega
  · rename_i off
    have fed : p.teeListen = true := p.fed (by simpa using off)
    rw [if_pos fed]
    omega

theorem depthKept {w : Ingress.Worker} (positive : 0 < w.queueDepth) : (Pipeline.depth w : Int) = w.queueDepth := by
  rw [Pipeline.depth, if_neg (by omega), Int.toNat_of_nonneg (by omega)]

theorem procsKept {w : Ingress.Worker} (positive : 0 < w.procs) : (Pipeline.procs w : Int) = w.procs := by
  rw [Pipeline.procs, if_neg (by omega), Int.toNat_of_nonneg (by omega)]

section Lifetimes
variable {ttls : TTLConfig} (all : ∀ name, 0 < TTLName.of ttls name)
include all

theorem versionPositive (ver : UInt8) : 0 < Proxy.ttlFor ttls ver := by
  unfold Proxy.ttlFor
  split_ifs
  · exact all .block
  · exact all .subtree
  · exact all .anchor
  · exact all .beef
  · exact all .tx

theorem classPositive (lib : Wire.FrameLib) (raw : Bytes) : 0 < Ingress.classTTL lib ttls raw := by
  unfold Ingress.classTTL
  split_ifs
  · exact all .block
  · exact all .subtree
  · exact all .anchor
  · exact all .tx
  · exact all .beef
  · split
    · exact all .tx
    · -- a fragment lives as long as the proxy would keep what it is a fragment of
      exact versionPositive all _
  · exact all .tx

end Lifetimes

theorem ssmChecked (passed : Passed h f found) (specific : found.mode = .ssm) :
    checkBindSource h f.source.bindSource = .ok () ∧ checkLists f.source = .ok () := by
  have checked := passed.ssm
  rw [specific, checkSSM] at checked
  obtain ⟨_, literal, lists⟩ := boundOk checked
  exact ⟨literal, lists⟩

theorem sourcesMade (passed : Passed h f found) (specific : found.mode = .ssm) :
    ∃ lists : OwnSource.Lists,
      lists.bootstrapManifest = (splitCSV f.source.ssmBootstrapManifest).map text ∧
      lists.bootstrapBeacon = (splitCSV f.source.ssmBootstrapBeacon).map text ∧
      lists.bootstrapSubtreeAnn = (splitCSV f.source.ssmBootstrapSubtreeAnnounce).map text ∧
      lists.publishersStatic = (splitCSV f.source.ssmPublishersStatic).map text := by
  obtain ⟨listed, discovered⟩ := listsGiven (ssmChecked passed specific).2
  refine ⟨⟨_, _, _, _, ?_, ?_⟩, rfl, rfl, rfl, rfl⟩
  · simpa only [ne_eq, List.map_eq_nil_iff] using listed
  · simpa only [ne_eq, List.map_eq_nil_iff, List.length_map] using discovered

theorem proxyKept (passed : Passed h f found) (on : f.serve.proxyEnabled = true) (dedup : Option Store)
    (cache : Store) (retrans : Retransmit.Retransmitter) :
    let client := (Proxy.new (proxyConfig (assemble h f found) dedup cache retrans)).cfg
    client.timeout = f.serve.proxyTimeout ∧ client.workers = found.proxyWorkers ∧
      client.queueDepth = f.serve.proxyQueue ∧ 0 < client.maxEndpoints := by
  obtain ⟨checked, workers⟩ := proxyRead passed.proxy on
  have timeout := checked.timeout
  have queue := checked.queue
  have some : 0 < (splitCSV f.serve.upstreamRetryEndpoints).length := List.length_pos_iff.mpr checked.upstreams
  have own : ∀ {value fallback : Int}, 0 < value → Proxy.orDefault value fallback = value := by
    intro value fallback positive
    exact if_neg (Int.not_le.mpr positive)
  refine ⟨own timeout, own workers, own queue, ?_⟩
  simp only [Proxy.new, Proxy.Config.endpoints, proxyConfig, assemble, List.length_map]
  split <;> omega

end Starting

def untidy : Surroundings where
  getenv _ := []
  args := [("source-mode", utf8 "SSM"), ("ssm-bootstrap-beacon", utf8 " pods , ,lab"), ("bind-source", utf8 "fd20::41"),
    ("tee-listen", utf8 "[::1]:9002"), ("mc-join-enabled", utf8 "false"), ("egress-iface", utf8 " eth0 ,"),
    ("control-group-compat", utf8 " Both "), ("proxy-enabled", utf8 "true"),
    ("upstream-retry-endpoints", utf8 "north:9300, south:9300"), ("nack-addr", utf8 "fd20::41")]

/-- An accepted configuration can be run: every part main makes of it is made as
configured, from the feeds to the beacon. -/
theorem loadedStarts {h : Host} {f : Flags} {c : Config} (ok : load h f = .ok c) : Starts h c := by
  obtain ⟨found, passed, rfl⟩ := loadPassed ok
  have lifetimes := lifetimesPositive passed
  constructor
  case process => exact processMade passed
  case oneSocket =>
    intro other
    exact if_pos (.inr other)
  case tee =>
    intro ap given
    have read : readTee h f.ingress.teeListen = .ok (some ap) := given ▸ passed.tee
    exact teeLocal read
  case sources => exact sourcesMade passed
  case bound => exact fun specific => bindLiteral (ssmChecked passed specific).1
  case pipeline =>
    intro cache
    obtain ⟨queue, procs⟩ := pipelinePositive passed.pipeline
    exact ⟨depthKept queue, procsKept procs⟩
  case stored => exact fun lib raw => classPositive lifetimes lib raw
  case recovered => exact versionPositive lifetimes
  case answers =>
    have cpus := h.cpus
    simp only [assemble, nackWorkers]
    split <;> omega
  case egress =>
    obtain ⟨-, some, all⟩ := egressFound passed.egress
    obtain ⟨first, rest, split⟩ := List.exists_cons_of_ne_nil some
    exact ⟨first, rest, split, all⟩
  case proxy => exact proxyKept passed
  case beacon =>
    intro enabled ip picked
    obtain ⟨w, sent, read, resolved⟩ := BeaconRun.loadResolves passed.beacon enabled
    obtain ⟨b, -, made⟩ := BeaconRun.senderMade enabled picked read resolved
    exact ⟨_, made⟩

theorem loadedStartsUntidy : ∃ f c, parseFlags labReaders untidy 4 = some f ∧ load labHost f = .ok c ∧
    Starts labHost c ∧ c.sourceMode = .ssm ∧ c.proxyEnabled = true ∧ c.teeListen.isSome = true := by
  obtain ⟨f, c, parsed, ok, shape⟩ : ∃ f c, parseFlags labReaders untidy 4 = some f ∧ load labHost f = .ok c ∧
    c.sourceMode = .ssm ∧ c.proxyEnabled = true ∧ c.teeListen.isSome = true := ⟨_, _, rfl, rfl, rfl, rfl, rfl⟩
  exact ⟨f, c, parsed, ok, loadedStarts ok, shape⟩

end RetryEndpoint.Load
