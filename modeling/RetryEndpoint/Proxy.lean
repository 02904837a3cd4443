import RetryEndpoint.Retransmit

/-! The cross-domain client of proxy.go. One recovery is a function of the job,
the backend and what the outside decides: the answer to the claim, whether the
context is done before an attempt, how each attempt's socket fares and which
datagrams reach it before the deadline. What it does is a list of effects. The
source address the socket is bound to is read by nothing modelled here. -/
namespace RetryEndpoint.Proxy
open BigEndian Wire Cache Retransmit

structure Config where
  upstreams : List String
  timeout : Int
  maxEndpoints : Int
  dedupWindow : Int
  workers : Int
  queueDepth : Int
  dedup : Option Store
  cache : Store
  retrans : Retransmitter
  ttls : TTLConfig
  multicast : Bool
  unicast : Bool

structure Job where
  hashKey : UInt64
  seq : UInt64
  subtree : Bytes
  requester : Option UDPAddr
  deriving DecidableEq, Repr

/- A client is made by new only, so its settings are in range: every upstream it
will try is one it has. -/
structure Client where
  cfg : Config
  inRange : 0 ≤ cfg.maxEndpoints ∧ cfg.maxEndpoints ≤ cfg.upstreams.length
  positive : 0 < cfg.timeout ∧ 0 < cfg.workers ∧ 0 < cfg.queueDepth ∧ 0 < cfg.dedupWindow

def millisecond : Int := 1000 * 1000

def orDefault (value fallback : Int) : Int := if value ≤ 0 then fallback else value

theorem orDefaultPos {value fallback : Int} (h : 0 < fallback) : 0 < orDefault value fallback := by
  unfold orDefault
  split
  · exact h
  · omega

def Config.endpoints (cfg : Config) : Int :=
  if cfg.maxEndpoints ≤ 0 ∨ cfg.maxEndpoints > cfg.upstreams.length then cfg.upstreams.length
  else cfg.maxEndpoints

def new (cfg : Config) : Client where
  cfg := { cfg with
    timeout := orDefault cfg.timeout (300 * millisecond)
    workers := orDefault cfg.workers 4
    queueDepth := orDefault cfg.queueDepth 1024
    maxEndpoints := cfg.endpoints
    dedupWindow := orDefault cfg.dedupWindow (60 * 1000 * millisecond) }
  inRange := by
    dsimp only [Config.endpoints]
    split <;> omega
  positive := ⟨orDefaultPos (by decide), orDefaultPos (by decide), orDefaultPos (by decide),
    orDefaultPos (by decide)⟩

def Client.enqueue (c : Client) (queue : List Job) (j : Job) : Bool × List Job :=
  if (queue.length : Int) < c.cfg.queueDepth then (true, queue ++ [j]) else (false, queue)

inductive Effect where
  | nack (upstream : String) (msg : Bytes)
  | store (key value : Bytes) (ttl : Int) (failed : Bool)
  | retransmit (raw txID : Bytes) (result : Result) (writes : List Write)
  | unicast (raw : Bytes) (dst : UDPAddr) (ok : Bool)
  deriving DecidableEq, Repr

/- One attempt's socket: set up and send may fail; then datagrams come in, from
anyone, until the deadline. -/
structure Attempt where
  resolves : Bool
  listens : Bool
  sends : Bool
  arrivals : List Bytes
  deriving DecidableEq, Repr

structure Env (r : Retransmitter) where
  claimFault : Fault
  claimNow : Int
  cancelled : Nat → Bool
  attempt : Nat → Attempt
  storeFault : Fault
  storeNow : Int
  dedupFault : Fault
  dedupNow : Int
  order : List Iface
  visits : order.Perm r.sockets
  egressFails : Iface → Bool
  unicastFails : Bool

def fetchBuffer : Nat := 64 * 1024

def isFrameReturn (d : Bytes) : Bool :=
  decide (headerSize ≤ d.length) && uint32 (slice d 0 4) == magicBSV && byteAt d 6 != msgTypeACK &&
    byteAt d 6 != msgTypeMISS

def isMiss (d : Bytes) : Bool := d.length == responseSize && byteAt d 6 == msgTypeMISS

/- The read loop. A read longer than the buffer keeps what fits. -/
def fetchLoop : List Bytes → Option Bytes
  | [] => none
  | arrival :: rest =>
    let d := arrival.take fetchBuffer
    if isFrameReturn d then some d
    else if isMiss d then none
    else fetchLoop rest

def buildNACK (j : Job) : Bytes := nack flagProxied j.hashKey j.seq j.seq j.subtree

def fetch (upstream : String) (j : Job) (a : Attempt) : List Effect × Option Bytes :=
  if a.resolves && a.listens && a.sends then
    ([.nack upstream (buildNACK j)], fetchLoop a.arrivals)
  else ([], none)

def ttlFor (ttls : TTLConfig) (ver : UInt8) : Int :=
  if ver = frameVerV4 then ttls.block
  else if ver = frameVerV5 then ttls.subtree
  else if ver = frameVerV6 then ttls.anchor
  else if ver = frameVerV9 then ttls.beef
  else ttls.tx

/- none is the error of a frame too short to store. -/
def Config.storeCall (cfg : Config) (raw : Bytes) : Option (Bytes × Int) :=
  if raw.length < headerSize then none
  else some (slice raw 40 48 ++ slice raw 48 56, ttlFor cfg.ttls (byteAt raw 6))

def Config.store (cfg : Config) (raw : Bytes) (b : Backend) (fault : Fault) (now : Int) :
    List Effect × Backend :=
  match cfg.storeCall raw with
  | none => ([], b)
  | some (key, ttl) =>
    let (failed, b) := cfg.cache.store b fault now key raw ttl
    ([.store key raw ttl failed], b)

/- In unicast mode a claim is the requester's own, otherwise the gap's. -/
def Config.claimKey (cfg : Config) (j : Job) : Bytes :=
  let gap := flowKey j.hashKey j.seq
  match j.requester with
  | some peer =>
    if cfg.unicast then gap ++ peer.ip ++ putUint16 (UInt16.ofNat peer.port) else gap
  | none => gap

/- An error of the backend lets the recovery go on. -/
def Config.claim (cfg : Config) (j : Job) (b : Backend) (fault : Fault) (now : Int) :
    Bool × Backend :=
  match cfg.dedup with
  | none => (true, b)
  | some dedup =>
    let (reply, b) := dedup.setNX b fault now (cfg.claimKey j) claimValue cfg.dedupWindow
    (reply.err || reply.set, b)

section Recover
variable (lib : FrameLib) (cfg : Config) (env : Env cfg.retrans) (j : Job)

def Config.resend (raw : Bytes) (b : Backend) : List Effect × Backend :=
  if cfg.multicast then
    let txID := slice raw 8 40
    let (result, writes, b) := cfg.retrans.retransmit lib raw txID b env.dedupFault env.dedupNow env.order
      env.egressFails
    ([.retransmit raw txID result writes], b)
  else ([], b)

def Config.handBack (raw : Bytes) (fails : Bool) : List Effect :=
  match j.requester with
  | some peer =>
    if cfg.unicast then [.unicast raw peer (cfg.retrans.retransmitUnicast (some peer) fails)] else []
  | none => []

def Config.deliver (raw : Bytes) (b : Backend) : List Effect × Backend :=
  let (stored, b) := cfg.store raw b env.storeFault env.storeNow
  let (multicast, b) := cfg.resend lib env raw b
  (stored ++ multicast ++ cfg.handBack j raw env.unicastFails, b)

def Config.attempts (b : Backend) : Nat → List String → List Effect × Backend
  | _, [] => ([], b)
  | i, upstream :: rest =>
    if env.cancelled i then ([], b)
    else
      let (asked, got) := fetch upstream j (env.attempt i)
      match got with
      | some raw =>
        let (fx, b) := cfg.deliver lib env j raw b
        (asked ++ fx, b)
      | none =>
        let (fx, b) := Config.attempts b (i + 1) rest
        (asked ++ fx, b)

def Client.recover (c : Client) (env : Env c.cfg.retrans) (b : Backend) : List Effect × Backend :=
  let (go, b) := c.cfg.claim j b env.claimFault env.claimNow
  if go then c.cfg.attempts lib env j b 0 (c.cfg.upstreams.take c.cfg.maxEndpoints.toNat)
  else ([], b)

theorem storeEffect (raw : Bytes) (b : Backend) (fault : Fault) (now : Int) :
    (cfg.store raw b fault now).1 = [] ∨
      ∃ key ttl failed, (cfg.store raw b fault now).1 = [.store key raw ttl failed] := by
  unfold Config.store
  split
  · exact .inl rfl
  · exact .inr ⟨_, _, _, rfl⟩

theorem resendEffect (raw : Bytes) (b : Backend) :
    (cfg.resend lib env raw b).1 = [] ∨
      ∃ txID result writes, (cfg.resend lib env raw b).1 = [.retransmit raw txID result writes] := by
  unfold Config.resend
  split
  · exact .inr ⟨_, _, _, rfl⟩
  · exact .inl rfl

theorem handBackEffect (raw : Bytes) (fails : Bool) :
    cfg.handBack j raw fails = [] ∨ ∃ dst ok, cfg.handBack j raw fails = [.unicast raw dst ok] := by
  unfold Config.handBack
  split
  · split
    · exact .inr ⟨_, _, rfl⟩
    · exact .inl rfl
  · exact .inl rfl

theorem deliverNoNack (raw : Bytes) (b : Backend) (upstream : String) (msg : Bytes) :
    .nack upstream msg ∉ (cfg.deliver lib env j raw b).1 := by
  simp only [Config.deliver, List.mem_append, not_or]
  refine ⟨⟨?_, ?_⟩, ?_⟩
  · rcases storeEffect cfg raw b env.storeFault env.storeNow with none | ⟨_, _, _, one⟩
    · simp [none]
    · simp [one]
  · rcases resendEffect lib cfg env raw (cfg.store raw b env.storeFault env.storeNow).2 with none | ⟨_, _, _, one⟩
    · simp [none]
    · simp [one]
  · rcases handBackEffect cfg j raw env.unicastFails with none | ⟨_, _, one⟩
    · simp [none]
    · simp [one]

end Recover

end RetryEndpoint.Proxy
