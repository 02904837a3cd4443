import RetryEndpoint.RateLimit
import RetryEndpoint.Retransmit

/-! The NACK server of server.go. One call of processNACK is a function of the
datagram, its source, the limiter and cache state and what the outside decides
meanwhile; what it does is the list of its effects in order. Metrics and log
lines are left out, and with them the outcome of writing a response, which
nothing else reads. -/
namespace RetryEndpoint.NackServer
open BigEndian Wire Cache Retransmit RateLimit

def throttleBucketSequence : UInt8 := 2
def throttleBucketChain : UInt8 := 3
def throttleBucketGroup : UInt8 := 4
def ackFlagMulticastSent : UInt8 := 0x01
def ackFlagUnicastSent : UInt8 := 0x02

structure Server where
  cache : Store
  retransmit : Retransmitter
  suppressACK : Bool
  suppressMISS : Bool
  throttleResp : Bool
  shardEngine : Option Engine
  beefEngine : Option PlaneEngine
  retransmitMC : Bool
  retransmitUC : Bool
  proxy : Bool

structure State (β : Type) where
  limiter : Limiter β
  backend : Backend

/- What the outside decides during one call: the clock each component reads, the
answers of the backend, the order of the range over the sockets, and which
writes fail. -/
structure Env (r : Retransmitter) where
  ipNow : Int
  seqNow : Int
  chainNow : Int
  groupNow : Int
  cacheNow : Int
  cacheFails : Bool
  dedupNow : Int
  dedupFault : Fault
  order : List Iface
  visits : order.Perm r.sockets
  egressFails : Iface → Bool
  unicastFails : Bool

inductive Effect where
  | respond (dst : UDPAddr) (msg : Bytes)
  | enqueue (hashKey seq : UInt64) (subtree : Bytes) (requester : Option UDPAddr)
  | retransmit (raw txID : Bytes) (result : Result) (writes : List Write)
  | unicast (raw : Bytes) (dst : UDPAddr) (ok : Bool)
  deriving DecidableEq, Repr

inductive NackError where
  | size (len : Nat) | magic (found : UInt32) | msgType (found : UInt8)
  deriving DecidableEq, Repr

def validateNACK (datagram : Bytes) : Except NackError Unit :=
  if datagram.length < nackSize then .error (.size datagram.length)
  else if uint32 (slice datagram 0 4) ≠ magicBSV then .error (.magic (uint32 (slice datagram 0 4)))
  else if byteAt datagram 6 ≠ msgTypeNACK then .error (.msgType (byteAt datagram 6))
  else .ok ()

/- The read of Run: a datagram longer than the buffer is cut to it, and only one
that fills it goes on to a worker. -/
def readNACK (datagram : Bytes) : Option Bytes :=
  let read := datagram.take nackSize
  if read.length = nackSize then some read else none

structure Nack where
  proxied : Bool
  hashKey : UInt64
  startSeq : UInt64
  endSeq : UInt64
  subtreeID : Bytes
  deriving DecidableEq, Repr

def parseNACK (datagram : Bytes) : Nack where
  proxied := byteAt datagram 7 &&& flagProxied != 0
  hashKey := uint64 (slice datagram 8 16)
  startSeq := uint64 (slice datagram 16 24)
  endSeq := uint64 (slice datagram 24 32)
  subtreeID := slice datagram 32 64

def ipv6unspecified : Bytes := List.replicate 16 0

def sourceIP : Option UDPAddr → Bytes
  | some src => src.ip
  | none => ipv6unspecified

def Server.sendThrottled (src : UDPAddr) (bucket : UInt8) (seqNum : UInt64) : Effect :=
  .respond src (response msgTypeThrottled (bucket &&& 0x0F) seqNum)

def Server.sendResponse (src : UDPAddr) (msgType flags : UInt8) (seqNum : UInt64) : Effect :=
  .respond src (response msgType flags seqNum)

def Server.throttle (s : Server) (src : Option UDPAddr) (bucket : UInt8) (seqNum : UInt64) :
    List Effect :=
  match src with
  | some dst => if s.throttleResp then [Server.sendThrottled dst bucket seqNum] else []
  | none => []

def frameTxID (raw : Bytes) : Bytes :=
  if raw.length ≥ 40 then slice raw 8 40 else List.replicate 32 0

/- The group the last tier charges: the BEEF test comes last and wins. -/
def Server.groupIdx (lib : FrameLib) (s : Server) (engine : Engine) (raw txID : Bytes) : UInt32 :=
  let idx := engine.groupIndex txID
  let idx := if lib.isBundle raw ∧ raw.length ≥ 58 then (uint16 (slice raw 56 58)).toUInt32 else idx
  match s.beefEngine with
  | some beef =>
    if lib.isBEEFFrame raw ∧ raw.length ≥ 88 then beef.groupIndex (slice raw 56 88) else idx
  | none => idx

def Server.attempted (s : Server) (n : Nack) (src : Option UDPAddr) : Bool :=
  s.retransmitMC || ((s.retransmitUC || n.proxied) && src.isSome)

def Server.ack (s : Server) (n : Nack) (src : Option UDPAddr) (ackFlags : UInt8) : List Effect :=
  match src with
  | some dst =>
    if !s.suppressACK && (ackFlags != 0 || !s.attempted n src) then
      [Server.sendResponse dst msgTypeACK ackFlags n.startSeq] else []
  | none => []

def Server.unicastAndAck (s : Server) (env : Env s.retransmit) (n : Nack) (src : Option UDPAddr)
    (raw : Bytes) (ackFlags : UInt8) : List Effect :=
  match src with
  | some dst =>
    if s.retransmitUC || n.proxied then
      let ok := s.retransmit.retransmitUnicast (some dst) env.unicastFails
      .unicast raw dst ok :: s.ack n src (if ok then ackFlags ||| ackFlagUnicastSent else ackFlags)
    else s.ack n src ackFlags
  | none => s.ack n src ackFlags

def Server.multicast (lib : FrameLib) (s : Server) (env : Env s.retransmit) (raw : Bytes)
    (b : Backend) : Result × List Write × Backend :=
  s.retransmit.retransmit lib raw (frameTxID raw) b env.dedupFault env.dedupNow env.order
    env.egressFails

def Server.dispatch (lib : FrameLib) (s : Server) (env : Env s.retransmit) (n : Nack)
    (src : Option UDPAddr) (raw : Bytes) (b : Backend) : List Effect × Backend :=
  if s.retransmitMC then
    let (result, writes, b) := s.multicast lib env raw b
    let sent := .retransmit raw (frameTxID raw) result writes
    match result with
    | .sent => (sent :: s.unicastAndAck env n src raw ackFlagMulticastSent, b)
    | .suppressed => (sent :: s.unicastAndAck env n src raw 0, b)
    | .failed _ => ([sent], b)
  else (s.unicastAndAck env n src raw 0, b)

def Server.miss (s : Server) (src : Option UDPAddr) : List Effect :=
  match src with
  | some dst => if s.suppressMISS then [] else [Server.sendResponse dst msgTypeMISS 0 0]
  | none => []

/- An already proxied request is never proxied again. -/
def Server.missed (s : Server) (n : Nack) (src : Option UDPAddr) : List Effect :=
  s.miss src ++
    if s.proxy && !n.proxied then [.enqueue n.hashKey n.startSeq n.subtreeID src] else []

variable {β : Type} (rt : Runtime β) (lib : FrameLib)

/- Without a shard engine the group tier is skipped. -/
def Server.chargeGroup (s : Server) (env : Env s.retransmit) (src : Option UDPAddr) (raw : Bytes)
    (limiter : Limiter β) : Bool × Limiter β :=
  match s.shardEngine with
  | some engine => limiter.allowGroup rt (sourceIP src)
      (s.groupIdx lib engine raw (frameTxID raw)) env.groupNow
  | none => (true, limiter)

def Server.serve (s : Server) (env : Env s.retransmit) (n : Nack) (src : Option UDPAddr)
    (raw : Bytes) (st : State β) : List Effect × State β :=
  let (allowed, limiter) := s.chargeGroup rt lib env src raw st.limiter
  if allowed then
    let (fx, b) := s.dispatch lib env n src raw st.backend
    (fx, ⟨limiter, b⟩)
  else (s.throttle src throttleBucketGroup n.startSeq, { st with limiter := limiter })

def Server.lookup (s : Server) (env : Env s.retransmit) (n : Nack) (src : Option UDPAddr)
    (st : State β) : List Effect × State β :=
  match s.cache.retrieve st.backend env.cacheFails env.cacheNow (flowKey n.hashKey n.startSeq) with
  | .error _ => ([], st)
  | .ok none => (s.missed n src, st)
  | .ok (some raw) => s.serve rt lib env n src raw st

/- none is the run-time panic of a limiter log with its head out of range. -/
def Server.processNACK (s : Server) (env : Env s.retransmit) (datagram : Bytes)
    (src : Option UDPAddr) (st : State β) : Option (List Effect × State β) :=
  match validateNACK datagram with
  | .error _ => some ([], st)
  | .ok _ =>
    let n := parseNACK datagram
    if n.endSeq ≠ n.startSeq then some ([], st)
    else do
      let (denied, limiter) ← st.limiter.allow rt (sourceIP src) n.hashKey n.startSeq env.ipNow env.seqNow
      match denied with
      | some level =>
        let fx := if level = .sequence then s.throttle src throttleBucketSequence n.startSeq else []
        some (fx, { st with limiter := limiter })
      | none =>
        let (ok, limiter) ← limiter.allowChain rt (sourceIP src) n.hashKey env.chainNow
        let st := { st with limiter := limiter }
        if ok then some (s.lookup rt lib env n src st)
        else some (s.throttle src throttleBucketChain n.startSeq, st)

structure Admitted {s : Server} (env : Env s.retransmit) (datagram : Bytes) (src : Option UDPAddr)
    (st : State β) (limiter : Limiter β) : Prop where
  valid : validateNACK datagram = .ok ()
  single : (parseNACK datagram).endSeq = (parseNACK datagram).startSeq
  tiers : ∃ between,
    st.limiter.allow rt (sourceIP src) (parseNACK datagram).hashKey (parseNACK datagram).startSeq
      env.ipNow env.seqNow = some (none, between) ∧
    between.allowChain rt (sourceIP src) (parseNACK datagram).hashKey env.chainNow = some (true, limiter)

def Server.found (s : Server) (env : Env s.retransmit) (datagram : Bytes) (st : State β) :
    Except Unit (Option Bytes) :=
  s.cache.retrieve st.backend env.cacheFails env.cacheNow
    (flowKey (parseNACK datagram).hashKey (parseNACK datagram).startSeq)

inductive Path (s : Server) (env : Env s.retransmit) (datagram : Bytes) (src : Option UDPAddr)
    (st : State β) : List Effect → State β → Prop where
  | malformed {e} (bad : validateNACK datagram = .error e) : Path s env datagram src st [] st
  | range (valid : validateNACK datagram = .ok ())
      (more : (parseNACK datagram).endSeq ≠ (parseNACK datagram).startSeq) :
      Path s env datagram src st [] st
  | denied {level limiter} (valid : validateNACK datagram = .ok ())
      (single : (parseNACK datagram).endSeq = (parseNACK datagram).startSeq)
      (tier : st.limiter.allow rt (sourceIP src) (parseNACK datagram).hashKey
        (parseNACK datagram).startSeq env.ipNow env.seqNow = some (some level, limiter)) :
      Path s env datagram src st
        (if level = .sequence then s.throttle src throttleBucketSequence (parseNACK datagram).startSeq
          else []) { st with limiter := limiter }
  | chainDenied {between limiter} (valid : validateNACK datagram = .ok ())
      (single : (parseNACK datagram).endSeq = (parseNACK datagram).startSeq)
      (tier : st.limiter.allow rt (sourceIP src) (parseNACK datagram).hashKey
        (parseNACK datagram).startSeq env.ipNow env.seqNow = some (none, between))
      (chain : between.allowChain rt (sourceIP src) (parseNACK datagram).hashKey env.chainNow =
        some (false, limiter)) :
      Path s env datagram src st
        (s.throttle src throttleBucketChain (parseNACK datagram).startSeq) { st with limiter := limiter }
  | cacheError {limiter} (admitted : Admitted rt env datagram src st limiter)
      (failed : s.found env datagram st = .error ()) :
      Path s env datagram src st [] { st with limiter := limiter }
  | miss {limiter} (admitted : Admitted rt env datagram src st limiter)
      (absent : s.found env datagram st = .ok none) :
      Path s env datagram src st (s.missed (parseNACK datagram) src) { st with limiter := limiter }
  | groupDenied {limiter raw last} (admitted : Admitted rt env datagram src st limiter)
      (hit : s.found env datagram st = .ok (some raw))
      (group : s.chargeGroup rt lib env src raw limiter = (false, last)) :
      Path s env datagram src st
        (s.throttle src throttleBucketGroup (parseNACK datagram).startSeq) { st with limiter := last }
  | served {limiter raw last} (admitted : Admitted rt env datagram src st limiter)
      (hit : s.found env datagram st = .ok (some raw))
      (group : s.chargeGroup rt lib env src raw limiter = (true, last)) :
      Path s env datagram src st (s.dispatch lib env (parseNACK datagram) src raw st.backend).1
        ⟨last, (s.dispatch lib env (parseNACK datagram) src raw st.backend).2⟩

variable {rt lib}

theorem lookedPath {s : Server} {env : Env s.retransmit} {datagram : Bytes} {src : Option UDPAddr}
    {st : State β} {limiter : Limiter β} (admitted : Admitted rt env datagram src st limiter) :
    let out := s.lookup rt lib env (parseNACK datagram) src { st with limiter := limiter }
    Path rt lib s env datagram src st out.1 out.2 := by
  intro out
  simp only [out, Server.lookup]
  split
  · rename_i failed
    exact .cacheError admitted failed
  · rename_i absent
    exact .miss admitted absent
  · rename_i raw hit
    unfold Server.serve
    dsimp only
    split
    · rename_i allowed
      exact .served admitted hit (Prod.ext allowed rfl)
    · rename_i stopped
      exact .groupDenied admitted hit (Prod.ext (by simpa using stopped) rfl)

theorem processed {s : Server} {env : Env s.retransmit} {datagram : Bytes} {src : Option UDPAddr}
    {st st' : State β} {fx : List Effect}
    (ok : s.processNACK rt lib env datagram src st = some (fx, st')) :
    Path rt lib s env datagram src st fx st' := by
  unfold Server.processNACK at ok
  split at ok
  · rename_i e bad
    cases Option.some.inj ok
    exact .malformed bad
  · rename_i valid
    dsimp only at ok
    split at ok
    · rename_i more
      cases Option.some.inj ok
      exact .range valid more
    · rename_i single
      have single := not_not.mp single
      simp only [bind, Option.bind_eq_some_iff] at ok
      obtain ⟨⟨decision, between⟩, tier, ok⟩ := ok
      dsimp only at ok
      split at ok
      · cases Option.some.inj ok
        exact .denied valid single tier
      · obtain ⟨⟨pass, limiter⟩, chain, ok⟩ := Option.bind_eq_some_iff.mp ok
        dsimp only at ok
        split at ok
        · rename_i through
          subst through
          have same := Option.some.inj ok
          have path : Path rt lib s env datagram src st _ _ :=
            lookedPath ⟨valid, single, between, tier, chain⟩
          rw [same] at path
          exact path
        · rename_i stopped
          cases Bool.eq_false_iff.mpr stopped
          cases Option.some.inj ok
          exact .chainDenied valid single tier chain

theorem servedReturns {s : Server} {env : Env s.retransmit} {datagram raw : Bytes}
    {src : Option UDPAddr} {st : State β} {limiter last : Limiter β}
    (admitted : Admitted rt env datagram src st limiter)
    (hit : s.found env datagram st = .ok (some raw))
    (group : s.chargeGroup rt lib env src raw limiter = (true, last)) :
    let out := s.dispatch lib env (parseNACK datagram) src raw st.backend
    s.processNACK rt lib env datagram src st = some (out.1, ⟨last, out.2⟩) := by
  obtain ⟨valid, single, between, tier, chain⟩ := admitted
  have looked : s.cache.retrieve st.backend env.cacheFails env.cacheNow
      (flowKey (parseNACK datagram).hashKey (parseNACK datagram).startSeq) = .ok (some raw) := hit
  simp [Server.processNACK, valid, single, tier, chain, Server.lookup, looked, Server.serve, group]

def endpoint (multicast unicast : Bool) : Server where
  cache := ⟨[0x66]⟩
  retransmit := oneSocket
  suppressACK := false
  suppressMISS := false
  throttleResp := true
  shardEngine := some Engine.single
  beefEngine := none
  retransmitMC := multicast
  retransmitUC := unicast
  proxy := true

def calm (multicast unicast egressFails : Bool) : Env (endpoint multicast unicast).retransmit :=
  ⟨1, 1, 1, 1, 1, false, 1, .none, ["eth0"], oneSocketVisits, fun _ => egressFails, false⟩

def cachedFrame : Bytes := plainFrame 7 9 0

def warm : State Unit :=
  ⟨new Runtime.plenty ⟨1, 1, 0, 0, 0, 0, 3, 0, 0, 0⟩,
    ExpiringStore.put ExpiringStore.empty 0 ([0x66] ++ flowKey 7 9) cachedFrame 60⟩

def listener : UDPAddr := ⟨[10, 0, 0, 1], 4000⟩

def ask (flags : UInt8) : Bytes := nack flags 7 9 9 (List.replicate 32 0)

end RetryEndpoint.NackServer
