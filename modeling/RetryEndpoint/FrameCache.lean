import RetryEndpoint.AckHonesty
import RetryEndpoint.Ingress
import RetryEndpoint.Proxy
import RetryEndpoint.Runs

/-! One node over one backend: the ingress processors and the proxy write frames,
the retransmitter and the proxy write claims beside them under prefixes of their
own, entries run out or are evicted, and the NACK server reads. Whoever wrote a
frame, it lies under the sixteen bytes it carries. -/
namespace RetryEndpoint.FrameCache
open BigEndian Wire Cache ExpiringStore Retransmit RateLimit Runs

def ascii (s : String) : Bytes := s.toList.map (fun c => UInt8.ofNat c.toNat)

def frames : Store := ⟨ascii "bre:frame:"⟩
def dedupClaims : Store := ⟨ascii "bre:dedup:"⟩
def proxyClaims : Store := ⟨ascii "bre:proxy:"⟩

/- The wiring of main: one view for frames, one retransmitter, claims elsewhere. -/
structure Node where
  worker : Ingress.Worker
  client : Proxy.Client
  server : NackServer.Server
  workerFrames : worker.cache = frames
  clientFrames : client.cfg.cache = frames
  serverFrames : server.cache = frames
  oneRetransmitter : client.cfg.retrans = server.retransmit
  dedupView : ∀ view, server.retransmit.dedup = some view → view = dedupClaims
  proxyView : ∀ view, client.cfg.dedup = some view → view = proxyClaims

structure State (β : Type) where
  now : Int
  backend : Backend
  limiter : Limiter β

def init {β : Type} (limiter : Limiter β) : State β := ⟨0, empty, limiter⟩

inductive Action (node : Node) where
  | tick (time : Int)
  | datagram (p : Ingress.Processor) (d : Ingress.Datagram) (fault : Fault)
  | recache (raw : Bytes) (fault : Fault)
  | claim (j : Proxy.Job) (fault : Fault)
  | resend (raw : Bytes) (fault : Fault)
  | nack (env : NackServer.Env node.server.retransmit) (datagram : Bytes) (src : Option UDPAddr)
  | evict (key : Bytes)

variable {β : Type}

def step (rt : Runtime β) (lib : FrameLib) (node : Node) (s : State β) :
    Action node → Option (State β)
  | .tick time => if s.now ≤ time then some { s with now := time } else none
  | .datagram p d fault => some { s with backend := (p.handle lib node.worker d s.backend fault s.now).2.1 }
  | .recache raw fault => some { s with backend := (node.client.cfg.store raw s.backend fault s.now).2 }
  | .claim j fault => some { s with backend := (node.client.cfg.claim j s.backend fault s.now).2 }
  | .resend raw fault =>
    some { s with backend := (node.client.cfg.retrans.gate raw s.backend fault s.now).2 }
  | .nack env datagram src => do
    let (_, st) ← node.server.processNACK rt lib env datagram src ⟨s.limiter, s.backend⟩
    some { s with backend := st.backend, limiter := st.limiter }
  | .evict key => some { s with backend := drop s.backend key }

def Keyed (slot value : Bytes) : Prop :=
  ∀ key, slot = frames.key key → 56 ≤ value.length ∧ keyBytes value = key

theorem dedupApart (k key : Bytes) : dedupClaims.key k ≠ frames.key key := by
  intro same
  have heads := (List.append_inj same (by decide)).1
  exact absurd heads (by decide)

theorem proxyApart (k key : Bytes) : proxyClaims.key k ≠ frames.key key := by
  intro same
  have heads := (List.append_inj same (by decide)).1
  exact absurd heads (by decide)

theorem keyedFrame {key value : Bytes} (long : 56 ≤ value.length) (same : key = keyBytes value) :
    Keyed (frames.key key) value := by
  intro other slot
  cases keyInj slot
  exact ⟨long, same.symm⟩

theorem everySetNX {p : Bytes → Bytes → Prop} {view : Store} {b : Backend} (h : Every p b)
    {key value : Bytes} (good : p (view.key key) value) (fault : Fault) (now ttl : Int) :
    Every p (view.setNX b fault now key value ttl).2 := by
  have created : Every p (putNX b now (view.key key) value ttl).2 := by
    unfold putNX
    split
    · exact h
    · exact everyPut h good now ttl
  unfold Store.setNX
  cases fault with
  | none => exact created
  | lost => exact h
  | landed => exact created

theorem everyStore {p : Bytes → Bytes → Prop} {view : Store} {b : Backend} (h : Every p b)
    {key value : Bytes} (good : p (view.key key) value) (fault : Fault) (now ttl : Int) :
    Every p (view.store b fault now key value ttl).2 := by
  unfold Store.store
  cases fault with
  | none => exact everyPut h good now ttl
  | lost => exact h
  | landed => exact everyPut h good now ttl

theorem everyStored {p : Bytes → Bytes → Prop} {w : Ingress.Worker} {fault : Fault} {now : Int}
    {b b' : Backend} {call : Option (Bytes × Bytes)} (h : Every p b)
    (stored : Ingress.Stored w fault now b call b')
    (good : ∀ key value, call = some (key, value) → p (w.cache.key key) value) : Every p b' := by
  cases stored with
  | uncalled => exact h
  | lost failed => exact h
  | wrote ttl => exact everyPut h (good _ _ rfl) now ttl

theorem datagramKeyed {lib : FrameLib} (reads : lib.ReadsFlowKey) (node : Node)
    (p : Ingress.Processor) (d : Ingress.Datagram) {b : Backend} (h : Every Keyed b) (fault : Fault)
    (now : Int) : Every Keyed (p.handle lib node.worker d b fault now).2.1 := by
  obtain ⟨-, stored, -⟩ := Ingress.handleStores lib node.worker p d b fault now
  refine everyStored h stored ?_
  intro key value call
  obtain ⟨raw, -, frame⟩ := Option.bind_eq_some_iff.mp call
  obtain ⟨long, same, -⟩ := Ingress.frameStoreKey reads frame
  rw [node.workerFrames]
  exact keyedFrame long same

theorem recacheKeyed (node : Node) (raw : Bytes) {b : Backend} (h : Every Keyed b) (fault : Fault)
    (now : Int) : Every Keyed (node.client.cfg.store raw b fault now).2 := by
  unfold Proxy.Config.store Proxy.Config.storeCall
  split
  · exact h
  · rename_i key ttl call
    split at call <;> try contradiction
    rename_i long
    cases Option.some.inj call
    have wide : 56 ≤ raw.length := Nat.le_trans (by decide) (Nat.not_lt.mp long)
    have same : slice raw 40 48 ++ slice raw 48 56 = keyBytes raw :=
      sliceAppendSlice raw (by decide) (by decide)
    rw [node.clientFrames]
    exact everyStore h (keyedFrame wide same) fault now _

theorem claimKeyed (node : Node) (j : Proxy.Job) {b : Backend} (h : Every Keyed b) (fault : Fault)
    (now : Int) : Every Keyed (node.client.cfg.claim j b fault now).2 := by
  unfold Proxy.Config.claim
  split
  · exact h
  · rename_i view found
    cases node.proxyView view found
    exact everySetNX h (fun key same => absurd same (proxyApart _ key)) fault now _

theorem gateKeyed (node : Node) (raw : Bytes) {b : Backend} (h : Every Keyed b) (fault : Fault)
    (now : Int) : Every Keyed (node.server.retransmit.gate raw b fault now).2 := by
  unfold Retransmitter.gate
  split
  · rename_i view key found _
    cases node.dedupView view found
    exact everySetNX h (fun key same => absurd same (dedupApart _ key)) fault now _
  · exact h

theorem dispatchBackend (lib : FrameLib) (s : NackServer.Server) (env : NackServer.Env s.retransmit)
    (n : NackServer.Nack) (src : Option UDPAddr) (raw : Bytes) (b : Backend) :
    (s.dispatch lib env n src raw b).2 = b ∨
      (s.dispatch lib env n src raw b).2 = (s.retransmit.gate raw b env.dedupFault env.dedupNow).2 := by
  have after : (s.multicast lib env raw b).2.2 =
      (s.retransmit.gate raw b env.dedupFault env.dedupNow).2 := by
    unfold NackServer.Server.multicast Retransmitter.retransmit
    dsimp only
    split <;> rfl
  unfold NackServer.Server.dispatch
  split
  · dsimp only
    split <;> exact .inr after
  · exact .inl rfl

theorem nackKeyed {rt : Runtime β} {lib : FrameLib} {node : Node}
    {env : NackServer.Env node.server.retransmit} {datagram : Bytes} {src : Option UDPAddr}
    {st st' : NackServer.State β} {fx : List NackServer.Effect}
    (ran : node.server.processNACK rt lib env datagram src st = some (fx, st'))
    (h : Every Keyed st.backend) : Every Keyed st'.backend := by
  cases NackServer.processed ran with
  | @served limiter raw last admitted hit group =>
    change Every Keyed
      (node.server.dispatch lib env (NackServer.parseNACK datagram) src raw st.backend).2
    rcases dispatchBackend lib node.server env (NackServer.parseNACK datagram) src raw st.backend with
      same | gated
    · rw [same]
      exact h
    · rw [gated]
      exact gateKeyed node raw h env.dedupFault env.dedupNow
  | malformed => exact h
  | range => exact h
  | denied => exact h
  | chainDenied => exact h
  | cacheError => exact h
  | miss => exact h
  | groupDenied => exact h

def Sound (s : State β) : Prop := Every Keyed s.backend

theorem stepSound {rt : Runtime β} {lib : FrameLib} (reads : lib.ReadsFlowKey) {node : Node}
    {s s' : State β} {a : Action node} (h : Sound s) (ok : step rt lib node s a = some s') :
    Sound s' := by
  cases a with
  | tick time =>
    simp only [step] at ok
    split at ok <;> try contradiction
    cases Option.some.inj ok
    exact h
  | datagram p d fault =>
    cases Option.some.inj ok
    exact datagramKeyed reads node p d h fault s.now
  | recache raw fault =>
    cases Option.some.inj ok
    exact recacheKeyed node raw h fault s.now
  | claim j fault =>
    cases Option.some.inj ok
    exact claimKeyed node j h fault s.now
  | resend raw fault =>
    cases Option.some.inj ok
    simp only [Sound, node.oneRetransmitter]
    exact gateKeyed node raw h fault s.now
  | nack env datagram src =>
    simp only [step, bind, Option.bind_eq_some_iff] at ok
    obtain ⟨⟨fx, st⟩, ran, last⟩ := ok
    cases Option.some.inj last
    exact nackKeyed ran h
  | evict key =>
    cases Option.some.inj ok
    exact everyDrop h key

theorem sentFound {rt : Runtime β} {lib : FrameLib} {s : NackServer.Server}
    {env : NackServer.Env s.retransmit} {datagram raw : Bytes} {src : Option UDPAddr}
    {st st' : NackServer.State β} {fx : List NackServer.Effect}
    (ran : s.processNACK rt lib env datagram src st = some (fx, st'))
    (sent : (∃ txID result writes, .retransmit raw txID result writes ∈ fx) ∨
      ∃ dst ok, .unicast raw dst ok ∈ fx) : s.found env datagram st = .ok (some raw) := by
  rcases sent with ⟨txID, result, writes, mem⟩ | ⟨dst, ok, mem⟩
  · obtain ⟨limiter, cached, last, -, hit, -, rfl⟩ := AckHonesty.servedOfLate ran mem .multicast
    obtain ⟨rfl, -⟩ := AckHonesty.dispatchMulticast mem
    exact hit
  · obtain ⟨limiter, cached, last, -, hit, -, rfl⟩ := AckHonesty.servedOfLate ran mem .unicast
    cases AckHonesty.dispatchUnicast mem
    exact hit

theorem keyedLong {raw : Bytes} {hashKey seqNum : UInt64} (same : keyBytes raw = flowKey hashKey seqNum) :
    56 ≤ raw.length := by
  have len := congrArg List.length same
  simp only [keyBytes, slice, List.length_take, List.length_drop, flowKeyLength] at len
  omega

/-- In every state the node can reach, a cached frame lies under bytes 40..55 of
its own; so what a NACK is served carries the flow key of the NACK, and the dedup
claim taken for it is the NACK's own. -/
theorem framesKeyed {β : Type} (rt : Runtime β) (lib : FrameLib) (reads : lib.ReadsFlowKey)
    (node : Node) (limiter : Limiter β) (acts : List (Action node)) (s : State β)
    (ran : run (step rt lib node) (init limiter) acts = some s) :
    (∀ key e, s.backend (frames.key key) = some e → slice e.value 40 56 = key) ∧
    ∀ (env : NackServer.Env node.server.retransmit) (datagram : Bytes) (src : Option UDPAddr)
      (asked : Limiter β) (fx : List NackServer.Effect) (st : NackServer.State β),
      node.server.processNACK rt lib env datagram src ⟨asked, s.backend⟩ = some (fx, st) →
      ∀ raw, ((∃ txID result writes, .retransmit raw txID result writes ∈ fx) ∨
          ∃ dst ok, .unicast raw dst ok ∈ fx) →
        let n := NackServer.parseNACK datagram
        slice raw 40 56 = putUint64 n.hashKey ++ putUint64 n.startSeq ∧
          buildDedupKey raw = some (flowKey n.hashKey n.startSeq) := by
  have start : Sound (init limiter) := everyEmpty Keyed
  have h : Sound s := invariant (fun _ _ _ => stepSound reads) start ran
  refine ⟨?_, ?_⟩
  · intro key e found
    exact (h _ e found key rfl).2
  · intro env datagram src asked fx st served raw sent n
    have hit := sentFound served sent
    simp only [NackServer.Server.found, Store.retrieve, node.serverFrames] at hit
    split at hit <;> try contradiction
    have keyed : keyBytes raw = flowKey n.hashKey n.startSeq :=
      (everyRead h (Except.ok.inj hit) _ rfl).2
    refine ⟨keyed, ?_⟩
    rw [buildDedupKey, if_neg (Nat.not_lt.mpr (keyedLong keyed))]
    exact congrArg some keyed

def node : Node where
  worker := ⟨frames, ⟨60, 60, 60, 60, 60⟩, 0, 0⟩
  client := Proxy.new ⟨["upstream"], 0, 0, 0, 0, 0, some proxyClaims, frames,
    ⟨Engine.single, none, 9000, 10, some dedupClaims, ["eth0"], true⟩, ⟨60, 60, 60, 60, 60⟩, true, true⟩
  server := { NackServer.endpoint true true with
    cache := frames
    retransmit := ⟨Engine.single, none, 9000, 10, some dedupClaims, ["eth0"], true⟩ }
  workerFrames := rfl
  clientFrames := rfl
  serverFrames := rfl
  oneRetransmitter := rfl
  dedupView _ same := (Option.some.inj same).symm
  proxyView _ same := (Option.some.inj same).symm

def quiet : NackServer.Env node.server.retransmit :=
  ⟨1, 1, 1, 1, 1, false, 1, .none, ["eth0"], oneSocketVisits, fun _ => false, false⟩

theorem framesKeyedServed :
    ∃ s fx st, run (step Runtime.plenty FrameLib.plain node) (init NackServer.warm.limiter)
        [.datagram (.new false) ⟨NackServer.cachedFrame, none⟩ .none, .tick 5] = some s ∧
      node.server.processNACK Runtime.plenty FrameLib.plain quiet
        (NackServer.ask 0) (some NackServer.listener) ⟨NackServer.warm.limiter, s.backend⟩ =
          some (fx, st) ∧
      .unicast NackServer.cachedFrame NackServer.listener true ∈ fx ∧
      slice NackServer.cachedFrame 40 56 = putUint64 7 ++ putUint64 9 := by
  have computed : ((run (step Runtime.plenty FrameLib.plain node) (init NackServer.warm.limiter)
      [.datagram (.new false) ⟨NackServer.cachedFrame, none⟩ .none, .tick 5]).bind (fun s =>
        node.server.processNACK Runtime.plenty FrameLib.plain quiet
          (NackServer.ask 0) (some NackServer.listener) ⟨NackServer.warm.limiter, s.backend⟩)).map
        (fun out => decide (.unicast NackServer.cachedFrame NackServer.listener true ∈ out.1)) =
      some true := by rfl
  obtain ⟨⟨fx, st⟩, both, mem⟩ := Option.map_eq_some_iff.mp computed
  obtain ⟨s, ran, served⟩ := Option.bind_eq_some_iff.mp both
  have copy : .unicast NackServer.cachedFrame NackServer.listener true ∈ fx := by simpa using mem
  exact ⟨s, fx, st, ran, served, copy,
    ((framesKeyed _ _ plainReadsFlowKey node _ _ s ran).2 _ _ _ _ fx st served _
      (.inr ⟨_, _, copy⟩)).1⟩

end RetryEndpoint.FrameCache
