import RetryEndpoint.Namespaces
import RetryEndpoint.OneHop
import RetryEndpoint.ProxyRun
import RetryEndpoint.ServerRun

/-! The endpoint as main wires it: the server's Run, the proxy client it hands its misses
to and the ingress processors, all over one backend, under one context and one clock.
Siblings that share the backend write frames too, and anything beside the frames.
The record of the writes to the frame view is kept newest first, and for every call
the record as its lookup found it. -/
namespace RetryEndpoint.Endpoint
open BigEndian Wire Cache ExpiringStore Retransmit RateLimit Runs
open FrameCache (Node frames dedupClaims proxyClaims)

abbrev Journal := List (ExpiringStore.Write Bytes Bytes)

structure State (β : Type) where
  server : ServerRun.State β
  proxy : ProxyRun.State
  journal : Journal
  seen : Nat → Journal

variable {β : Type}

def init (node : Node) (workers : Nat) (limiter : Limiter β) : State β :=
  ⟨ServerRun.init workers limiter empty, ProxyRun.init node.client empty, [], fun _ => []⟩

def State.backend (s : State β) : Backend := s.server.calls.backend

def State.now (s : State β) : Int := s.server.calls.now

def State.share (s : State β) (b : Backend) : State β :=
  { s with
    server := { s.server with calls := { s.server.calls with backend := b } }
    proxy := { s.proxy with backend := b } }

inductive Action (node : Node) where
  | tick (time : Int)
  | cancel
  | server (a : ServerRun.Action node.server)
  | proxy (a : ProxyRun.Action node.client)
  | datagram (p : Ingress.Processor) (d : Ingress.Datagram) (fault : Fault)
  | sibling (key value : Bytes) (ttl : Int)
  | elsewhere (other : Backend)
  | evict (slot : Bytes)

def eventJobs : NackWorkers.Event → List Proxy.Job
  | .did _ _ fx _ => OneHop.jobsOf fx
  | _ => []

def jobsIn (events : List NackWorkers.Event) : List Proxy.Job := events.reverse.flatMap eventJobs

def added (before after : ServerRun.State β) : List NackWorkers.Event :=
  after.calls.history.take (after.calls.history.length - before.calls.history.length)

/- A recovery reads the endpoint's clock. -/
def onTime {c : Proxy.Client} (now : Int) : ProxyRun.Action c → ProxyRun.Action c
  | .claim id fault _ => .claim id fault now
  | .store id fault _ => .store id fault now
  | .multicast id env => .multicast id { env with dedupNow := now }
  | a => a

def ingressWrite (lib : FrameLib) (w : Ingress.Worker) (tee : Bool) (pkt : Bytes) (fault : Fault) (now : Int) :
    Journal :=
  if fault = .lost then []
  else match Ingress.datagramStore lib tee pkt with
    | none => []
    | some (key, value) => [.stored key value (now + Ingress.classTTL lib w.ttls value)]

def recacheWrite (cfg : Proxy.Config) (raw : Bytes) (fault : Fault) (now : Int) : Journal :=
  if fault = .lost then []
  else match cfg.storeCall raw with
    | none => []
    | some (key, ttl) => [.stored key raw (now + ttl)]

def recached (node : Node) (s : State β) : ProxyRun.Action node.client → Journal
  | .store id fault _ => match s.proxy.jobs id with
    | some (_, .storing raw) => recacheWrite node.client.cfg raw fault s.now
    | _ => []
  | _ => []

def evictWrite (slot : Bytes) : Journal :=
  if frames.keyPrefix.isPrefixOf slot then [.evicted (slot.drop frames.keyPrefix.length)] else []

def beside (b other : Backend) : Backend := fun slot =>
  if frames.keyPrefix.isPrefixOf slot then b slot else other slot

def sawBy {server : NackServer.Server} (seen : Nat → Journal) (journal : Journal) :
    NackWorkers.Action server → Nat → Journal
  | .look id _ => Function.update seen id journal
  | _ => seen

def lookedUp {server : NackServer.Server} (s : State β) : ServerRun.Action server → Nat → Journal
  | .call a => sawBy s.seen s.journal a
  | _ => s.seen

section Step
variable (rt : Runtime β) (lib : FrameLib) (node : Node)

def step (s : State β) : Action node → Option (State β)
  | .tick time => do
    let server ← ServerRun.step rt lib node.server s.server (.call (.tick time))
    some { s with server := server }
  | .cancel => some { s with
      server := { s.server with pool := s.server.pool.cancel }, proxy := { s.proxy with pool := s.proxy.pool.cancel } }
  | .server a =>
    if a.own then do
      let server ← ServerRun.step rt lib node.server s.server a
      let proxy ← run (ProxyRun.step lib node.client) s.proxy
        ((jobsIn (added s.server server)).map .enqueue)
      some ⟨server, { proxy with backend := server.calls.backend }, s.journal, lookedUp s a⟩
    else none
  | .proxy a =>
    if a.own then do
      let proxy ← ProxyRun.step lib node.client s.proxy (onTime s.now a)
      some { { s with proxy := proxy }.share proxy.backend with journal := recached node s a ++ s.journal }
    else none
  | .datagram p d fault =>
    some { s.share (p.handle lib node.worker d s.backend fault s.now).2.1 with
      journal := ingressWrite lib node.worker p.tee d.bytes fault s.now ++ s.journal }
  | .sibling key value ttl =>
    some { s.share (put s.backend s.now (frames.key key) value ttl) with
      journal := .stored key value (s.now + ttl) :: s.journal }
  | .elsewhere other => some (s.share (beside s.backend other))
  | .evict slot => some { s.share (drop s.backend slot) with journal := evictWrite slot ++ s.journal }

inductive Took (s : State β) : Action node → State β → Prop where
  | tick {time} (forward : s.now ≤ time) : Took s (.tick time)
      { s with server := { s.server with calls := { s.server.calls with now := time } } }
  | cancel : Took s .cancel { s with
      server := { s.server with pool := s.server.pool.cancel }, proxy := { s.proxy with pool := s.proxy.pool.cancel } }
  | server {a server proxy} (own : a.own = true)
      (moved : ServerRun.step rt lib node.server s.server a = some server)
      (offered : run (ProxyRun.step lib node.client) s.proxy
        ((jobsIn (added s.server server)).map .enqueue) = some proxy) :
      Took s (.server a) ⟨server, { proxy with backend := server.calls.backend }, s.journal, lookedUp s a⟩
  | proxy {a proxy} (own : a.own = true)
      (moved : ProxyRun.step lib node.client s.proxy (onTime s.now a) = some proxy) :
      Took s (.proxy a)
        { { s with proxy := proxy }.share proxy.backend with journal := recached node s a ++ s.journal }
  | datagram {p d fault} : Took s (.datagram p d fault)
      { s.share (p.handle lib node.worker d s.backend fault s.now).2.1 with
        journal := ingressWrite lib node.worker p.tee d.bytes fault s.now ++ s.journal }
  | sibling {key value ttl} : Took s (.sibling key value ttl)
      { s.share (put s.backend s.now (frames.key key) value ttl) with
        journal := .stored key value (s.now + ttl) :: s.journal }
  | elsewhere {other} : Took s (.elsewhere other) (s.share (beside s.backend other))
  | evict {slot} : Took s (.evict slot)
      { s.share (drop s.backend slot) with journal := evictWrite slot ++ s.journal }

variable {rt lib node}

theorem stepTook {s s' : State β} {a : Action node} (ok : step rt lib node s a = some s') :
    Took rt lib node s a s' := by
  cases a with
  | tick time =>
    obtain ⟨server, moved, ok⟩ := Option.bind_eq_some_iff.mp ok
    obtain ⟨calls, ticked, moved⟩ := Option.bind_eq_some_iff.mp moved
    cases NackWorkers.stepTook ticked with
    | tick forward =>
      cases Option.some.inj moved
      cases Option.some.inj ok
      exact .tick forward
  | cancel => cases Option.some.inj ok; exact .cancel
  | server a =>
    simp only [step] at ok
    split at ok <;> try contradiction
    rename_i own
    obtain ⟨server, moved, ok⟩ := Option.bind_eq_some_iff.mp ok
    obtain ⟨proxy, offered, ok⟩ := Option.bind_eq_some_iff.mp ok
    cases Option.some.inj ok
    exact .server own moved offered
  | proxy a =>
    simp only [step] at ok
    split at ok <;> try contradiction
    rename_i own
    obtain ⟨proxy, moved, ok⟩ := Option.bind_eq_some_iff.mp ok
    cases Option.some.inj ok
    exact .proxy own moved
  | datagram p d fault => cases Option.some.inj ok; exact .datagram
  | sibling key value ttl => cases Option.some.inj ok; exact .sibling
  | elsewhere other => cases Option.some.inj ok; exact .elsewhere
  | evict slot => cases Option.some.inj ok; exact .evict

end Step

section Components
variable {rt : Runtime β} {lib : FrameLib} {node : Node} {s s' : State β}

theorem serverMoves {a : Action node} (stepped : step rt lib node s a = some s') :
    ∃ acts, run (ServerRun.step rt lib node.server) s.server acts = some s'.server := by
  have outside : ∀ b, run (ServerRun.step rt lib node.server) s.server [.call (.outside b)] =
      some (s.share b).server := fun b => rfl
  cases stepTook stepped with
  | @tick time forward =>
    have ticks : s.server.calls.now ≤ time := forward
    exact ⟨[.call (.tick time)], by simp [run, ServerRun.step, ServerRun.begins, NackWorkers.step, ticks]⟩
  | cancel => exact ⟨[.cancel], rfl⟩
  | server own moved offered => exact ⟨[_], runFirst moved rfl⟩
  | proxy | datagram | sibling | elsewhere | evict => exact ⟨_, outside _⟩

theorem proxyMoves {a : Action node} (stepped : step rt lib node s a = some s') :
    ∃ acts, run (ProxyRun.step lib node.client) s.proxy acts = some s'.proxy := by
  have outside : ∀ (proxy : ProxyRun.State) b,
      run (ProxyRun.step lib node.client) proxy [.outside b] = some { proxy with backend := b } := fun _ _ => rfl
  cases stepTook stepped with
  | tick => exact ⟨[], rfl⟩
  | cancel => exact ⟨[.cancel], rfl⟩
  | server own moved offered => exact ⟨_, runAppend offered (outside _ _)⟩
  | proxy own moved => exact ⟨[_], runFirst moved rfl⟩
  | datagram | sibling | elsewhere | evict => exact ⟨_, outside _ _⟩

variable {workers : Nat} {limiter : Limiter β} {acts : List (Action node)}

theorem serverReached (ran : run (step rt lib node) (init node workers limiter) acts = some s) :
    ∃ acts', run (ServerRun.step rt lib node.server) (ServerRun.init workers limiter empty) acts' =
      some s.server := by
  have maps : ∀ (s : State β) (a : Action node) (s' : State β), True → step rt lib node s a = some s' →
      ∃ acts', run (ServerRun.step rt lib node.server) s.server acts' = some s'.server :=
    fun _ _ _ _ stepped => serverMoves stepped
  exact refinesMany (fun _ _ _ _ _ => trivial) maps trivial ran

end Components

def Mirrors (b : Backend) (j : Journal) : Prop := ∀ key, b (frames.key key) = last j key

section Register
variable {b b' : Backend} {j : Journal}

theorem Mirrors.kept (h : Mirrors b j) (same : ∀ key, b' (frames.key key) = b (frames.key key)) :
    Mirrors b' j := fun key => (same key).trans (h key)

theorem Mirrors.put (h : Mirrors b j) (now : Int) (k v : Bytes) (ttl : Int) :
    Mirrors (put b now (frames.key k) v ttl) (.stored k v (now + ttl) :: j) := by
  intro key
  by_cases same : k = key
  · subst same
    exact (putSame ..).trans (lastSame (.stored k v (now + ttl)) j).symm
  · rw [putOther _ _ _ _ (fun eq => same (keyInj eq).symm), h key]
    exact (lastOther (w := .stored k v (now + ttl)) j same).symm

theorem Mirrors.store (h : Mirrors b j) (fault : Fault) (now : Int) (k v : Bytes) (ttl : Int) :
    Mirrors (frames.store b fault now k v ttl).2
      ((if fault = .lost then [] else [.stored k v (now + ttl)]) ++ j) := by
  cases fault with
  | none | landed => exact h.put now k v ttl
  | lost => exact h

theorem slotKey {slot : Bytes} (framed : frames.keyPrefix.isPrefixOf slot = true) :
    frames.key (slot.drop frames.keyPrefix.length) = slot := by
  obtain ⟨key, rfl⟩ := List.isPrefixOf_iff_prefix.mp framed
  rw [List.drop_left]
  rfl

theorem keySlot (key : Bytes) : frames.keyPrefix.isPrefixOf (frames.key key) = true :=
  List.isPrefixOf_iff_prefix.mpr (List.prefix_append ..)

theorem Mirrors.evict (h : Mirrors b j) (slot : Bytes) : Mirrors (drop b slot) (evictWrite slot ++ j) := by
  intro key
  unfold evictWrite
  by_cases this : frames.key key = slot
  · subst this
    have whole := keyInj (slotKey (keySlot key))
    rw [drop, Function.update_self, if_pos (keySlot key), whole]
    exact (lastSame (.evicted key) j).symm
  · rw [drop, Function.update_of_ne this, h key]
    split
    · rename_i framed
      have other : slot.drop frames.keyPrefix.length ≠ key := by
        rintro rfl
        exact this (slotKey framed)
      exact (lastOther (w := .evicted _) j other).symm
    · rfl

theorem Mirrors.beside (h : Mirrors b j) (other : Backend) : Mirrors (beside b other) j :=
  h.kept (fun key => if_pos (keySlot key))

variable (node : Node)

theorem claimFrames (job : Proxy.Job) (fault : Fault) (now : Int) (key : Bytes) :
    (node.client.cfg.claim job b fault now).2 (frames.key key) = b (frames.key key) := by
  unfold Proxy.Config.claim
  split
  · rfl
  · rename_i view found
    cases node.proxyView view found
    exact (Namespaces.setNXLocal now _ _ proxyClaims fault _).others b _
      (FrameCache.proxyApart _ key).symm

theorem gateFrames (raw : Bytes) (fault : Fault) (now : Int) (key : Bytes) :
    (node.server.retransmit.gate raw b fault now).2 (frames.key key) = b (frames.key key) := by
  unfold Retransmitter.gate
  split
  · rename_i view claim found _
    cases node.dedupView view found
    exact (Namespaces.setNXLocal now _ _ dedupClaims fault _).others b _ (FrameCache.dedupApart _ key).symm
  · rfl

theorem dispatchFrames (lib : FrameLib) (env : NackServer.Env node.server.retransmit)
    (n : NackServer.Nack) (src : Option UDPAddr) (raw key : Bytes) :
    (node.server.dispatch lib env n src raw b).2 (frames.key key) = b (frames.key key) := by
  rcases FrameCache.dispatchBackend lib node.server env n src raw b with same | gated
  · rw [same]
  · rw [gated, gateFrames]

theorem resendFrames (lib : FrameLib) (env : Proxy.Env node.client.cfg.retrans) (raw key : Bytes) :
    (node.client.cfg.resend lib env raw b).2 (frames.key key) = b (frames.key key) := by
  have gate : ∀ (fault : Fault) (now : Int),
      (node.client.cfg.retrans.gate raw b fault now).2 (frames.key key) = b (frames.key key) := by
    rw [node.oneRetransmitter]
    exact fun fault now => gateFrames node raw fault now key
  unfold Proxy.Config.resend Retransmitter.retransmit
  dsimp only
  split
  · split <;> exact gate _ _
  · rfl

theorem Mirrors.recache (h : Mirrors b j) (raw : Bytes) (fault : Fault) (now : Int) :
    Mirrors (node.client.cfg.store raw b fault now).2 (recacheWrite node.client.cfg raw fault now ++ j) := by
  unfold Proxy.Config.store recacheWrite
  rw [node.clientFrames]
  cases node.client.cfg.storeCall raw with
  | none => cases fault <;> exact h
  | some call => exact h.store _ _ call.1 raw call.2

theorem Mirrors.datagram (h : Mirrors b j) (lib : FrameLib) (p : Ingress.Processor) (d : Ingress.Datagram)
    (fault : Fault) (now : Int) :
    Mirrors (p.handle lib node.worker d b fault now).2.1
      (ingressWrite lib node.worker p.tee d.bytes fault now ++ j) := by
  rw [Ingress.handleBackend, ingressWrite, node.workerFrames]
  cases Ingress.datagramStore lib p.tee d.bytes with
  | none => cases fault <;> exact h
  | some call => exact h.store _ _ call.1 call.2 _

end Register

section Reached
variable {rt : Runtime β} {lib : FrameLib} {node : Node} {s s' : State β}

theorem callFrames {c c' : NackWorkers.State β} {a : NackWorkers.Action node.server}
    (own : ServerRun.outside a = false) (stepped : NackWorkers.step rt lib node.server c a = some c')
    (key : Bytes) : c'.backend (frames.key key) = c.backend (frames.key key) := by
  cases NackWorkers.stepTook stepped with
  | tick | outside => cases own
  | @sent id req raw env fx b here sends =>
    have after : b = (NackWorkers.dispatched lib node.server c req raw env).2 := by rw [sends]
    simp only [NackWorkers.State.move, after]
    exact dispatchFrames node lib _ req.nack req.src raw key
  | _ => rfl

theorem serverFrames {c c' : ServerRun.State β} {a : ServerRun.Action node.server} (own : a.own = true)
    (stepped : ServerRun.step rt lib node.server c a = some c') (key : Bytes) :
    c'.calls.backend (frames.key key) = c.calls.backend (frames.key key) := by
  cases ServerRun.stepTook stepped with
  | take idle next fresh begun => exact callFrames rfl begun key
  | call later moved => exact callFrames (by simpa [ServerRun.Action.own] using own) moved key
  | _ => rfl

theorem proxyMirrors {a : ProxyRun.Action node.client} {proxy : ProxyRun.State}
    (h : Mirrors s.proxy.backend s.journal) (own : a.own = true)
    (stepped : ProxyRun.step lib node.client s.proxy (onTime s.now a) = some proxy) :
    Mirrors proxy.backend (recached node s a ++ s.journal) := by
  cases a with
  | enqueue | cancel | outside => cases own
  | store id fault now =>
    cases ProxyRun.stepTook stepped with
    | stored here =>
      simp only [recached, here]
      exact h.recache node _ _ _
  | multicast id env =>
    cases ProxyRun.stepTook stepped with
    | multicast here => exact h.kept (resendFrames node lib _ _)
  | claim id fault now =>
    cases ProxyRun.stepTook stepped with
    | @claimed _ _ _ job b here claim | @deduped _ _ _ job b here claim =>
      refine h.kept (fun key => ?_)
      have kept := claimFrames (b := s.proxy.backend) node job fault s.now key
      rwa [claim] at kept
  | take | count | look | ask | hear | unicast | close | finish | exit => cases ProxyRun.stepTook stepped <;> exact h

structure Joined (s : State β) : Prop where
  same : s.proxy.backend = s.backend
  mirrors : Mirrors s.backend s.journal

theorem stepJoined {a : Action node} (h : Joined s) (stepped : step rt lib node s a = some s') : Joined s' := by
  have mirrors := h.mirrors
  cases stepTook stepped with
  | tick | cancel => exact ⟨h.same, mirrors⟩
  | server own moved offered => exact ⟨rfl, mirrors.kept (serverFrames own moved)⟩
  | proxy own moved => exact ⟨rfl, proxyMirrors (h.same ▸ mirrors) own moved⟩
  | datagram => exact ⟨rfl, mirrors.datagram node lib _ _ _ _⟩
  | sibling => exact ⟨rfl, mirrors.put _ _ _ _⟩
  | elsewhere => exact ⟨rfl, mirrors.beside _⟩
  | evict => exact ⟨rfl, mirrors.evict _⟩

end Reached

end RetryEndpoint.Endpoint
