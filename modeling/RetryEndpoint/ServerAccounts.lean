import RetryEndpoint.ServerRun

/-! What the server counts. The Recorder's counters are moved by processNACK, by its two
senders and by the retransmitter, and some failures only leave a line in the log. Here they
stand beside the run of the server, so that they can be held against what was read. Each is
what Server.Run itself adds to it: a recovery of the proxy moves the retransmits and the
unicasts too, and a Store that fails at the ingress the cache errors. -/
namespace RetryEndpoint.ServerAccounts
open BigEndian Wire Cache Retransmit RateLimit NackServer NackWorkers Runs WorkPool
open ServerRun (isDone doneIs)

inductive Label where | ack | miss | throttled deriving DecidableEq, Repr

inductive Counter where
  | nackRequests
  | rateLimitDrops (level : Level)
  | cacheHits
  | cacheMisses
  | cacheErrors
  | retransmits
  | retransmitDedup
  | unicastRetransmits
  | responsesSent (label : Label)
  | responseSendErrors (label : Label)
  deriving DecidableEq, Repr

/- The lines of the error log: "cache retrieve error", "egress write error" and
"retransmit error". -/
inductive Line where | cacheRetrieve | egressWrite | retransmit deriving DecidableEq, Repr

/- sendThrottled has its own label; sendResponse tells MISS from the rest. -/
def label (msg : Bytes) : Label :=
  if byteAt msg 6 = msgTypeThrottled then .throttled
  else if byteAt msg 6 = msgTypeMISS then .miss
  else .ack

def multicastOut : Effect → Bool
  | .retransmit _ _ .sent _ => true
  | _ => false

def dedupedOut : Effect → Bool
  | .retransmit _ _ .suppressed _ => true
  | _ => false

def failedOut : Effect → Bool
  | .retransmit _ _ (.failed _) _ => true
  | _ => false

def writeFailed : Effect → Bool
  | .retransmit _ _ (.failed (.write _)) _ => true
  | _ => false

def copyOut : Effect → Bool
  | .unicast _ _ ok => ok
  | _ => false

def answers (l : Label) : Effect → Bool
  | .respond _ msg => label msg == l
  | _ => false

inductive Outcome where
  | quiet
  | begun
  | dropped (level : Level) (fx : List Effect)
  | failed
  | missed (fx : List Effect)
  | hit
  | sent (fx : List Effect)

def Outcome.effects : Outcome → List Effect
  | .dropped _ fx | .missed fx | .sent fx => fx
  | _ => []

def Outcome.own : Outcome → Counter → Nat
  | .begun, .nackRequests => 1
  | .dropped level _, .rateLimitDrops level' => if level = level' then 1 else 0
  | .failed, .cacheErrors => 1
  | .missed _, .cacheMisses => 1
  | .hit, .cacheHits => 1
  | _, _ => 0

/- What is counted where something goes out. wireFails is the write of a response. -/
def effectCount (wireFails : Bool) (fx : List Effect) : Counter → Nat
  | .retransmits => fx.countP multicastOut
  | .retransmitDedup => fx.countP dedupedOut
  | .cacheErrors => fx.countP writeFailed
  | .unicastRetransmits => fx.countP copyOut
  | .responsesSent l => if wireFails then 0 else fx.countP (answers l)
  | .responseSendErrors l => if wireFails then fx.countP (answers l) else 0
  | _ => 0

def Outcome.count (o : Outcome) (wireFails : Bool) (c : Counter) : Nat :=
  o.own c + effectCount wireFails o.effects c

def Outcome.lines (o : Outcome) : Line → Nat
  | .cacheRetrieve => match o with
    | .failed => 1
    | _ => 0
  | .egressWrite => o.effects.countP writeFailed
  | .retransmit => o.effects.countP failedOut

structure State (β : Type) where
  server : ServerRun.State β
  count : Counter → Nat
  lines : Line → Nat

structure Action (server : Server) where
  act : ServerRun.Action server
  wireFails : Bool

variable {β : Type}

def init (workers : Nat) (limiter : Limiter β) (b : Backend) : State β :=
  ⟨ServerRun.init workers limiter b, fun _ => 0, fun _ => 0⟩

def State.enter (s : State β) (o : Outcome) (wireFails : Bool) (next : ServerRun.State β) : State β :=
  ⟨next, fun c => s.count c + o.count wireFails c, fun l => s.lines l + o.lines l⟩

section Step
variable (rt : Runtime β) (lib : FrameLib) (server : Server)

def throttled (req : Request) (bucket : UInt8) : List Effect :=
  server.throttle req.src bucket req.nack.startSeq

def tierOutcome (level : Level) (fx : List Effect) (passed : Bool) : Outcome :=
  if passed then .quiet else .dropped level fx

def callOutcome (s : NackWorkers.State β) : NackWorkers.Action server → Outcome
  | .tick _ | .outside _ => .quiet
  | .arrive _ _ => .begun
  | .ip id => match s.calls id with
    | some (req, .ip) => tierOutcome .ip [] (allowIP rt s.limiter (sourceIP req.src) s.now).1
    | _ => .quiet
  | .sequence id => match s.calls id with
    | some (req, .sequence) => match allowSequence rt s.limiter req.gap s.now with
      | some (passed, _) => tierOutcome .sequence (throttled server req throttleBucketSequence) passed
      | none => .quiet
    | _ => .quiet
  | .chain id => match s.calls id with
    | some (req, .chain _) => match s.limiter.allowChain rt (sourceIP req.src) req.nack.hashKey s.now with
      | some (passed, _) => tierOutcome .chain (throttled server req throttleBucketChain) passed
      | none => .quiet
    | _ => .quiet
  | .look id fails => match s.calls id with
    | some (req, .lookup _ _) =>
      match server.cache.retrieve s.backend fails s.now (flowKey req.nack.hashKey req.nack.startSeq) with
      | .error _ => .failed
      | .ok none => .missed (server.missed req.nack req.src)
      | .ok (some _) => .hit
    | _ => .quiet
  | .group id env => match s.calls id with
    | some (req, .group raw) =>
      tierOutcome .group (throttled server req throttleBucketGroup) (charge rt lib server s req raw env).1
    | _ => .quiet
  | .send id env => match s.calls id with
    | some (req, .send raw) => .sent (dispatched lib server s req raw env).1
    | _ => .quiet

def outcome (s : ServerRun.State β) : ServerRun.Action server → Outcome
  | .take _ => .begun
  | .call a => callOutcome rt lib server s.calls a
  | _ => .quiet

def step (s : State β) (a : Action server) : Option (State β) := do
  let next ← ServerRun.step rt lib server s.server a.act
  some (s.enter (outcome rt lib server s.server a.act) a.wireFails next)

end Step

def refused (req : Request) : Bool := match validateNACK req.datagram with
  | .error _ => true
  | .ok _ => req.nack.endSeq != req.nack.startSeq

def beforeLookup : Phase → Nat
  | .ip | .sequence | .chain _ | .lookup _ _ => 1
  | _ => 0

def afterHit : Phase → Nat
  | .group _ | .send _ => 1
  | _ => 0

def State.standing (s : State β) (weight : Phase → Nat) : Nat :=
  total weight s.server.pool.taken.length s.server.calls.calls

def State.answered (s : State β) (l : Label) : Nat := s.count (.responsesSent l) + s.count (.responseSendErrors l)

structure Balanced (server : Server) (s : State β) : Prop where
  requests : s.count .nackRequests = s.server.pool.taken.length
  tiers : s.count .nackRequests =
    s.server.pool.taken.countP refused + s.count (.rateLimitDrops .ip) + s.count (.rateLimitDrops .sequence) +
      s.count (.rateLimitDrops .chain) + s.lines .cacheRetrieve + s.count .cacheMisses + s.count .cacheHits +
      s.standing beforeLookup
  sends : server.retransmitMC = true → s.count .cacheHits =
    s.count (.rateLimitDrops .group) + s.count .retransmits + s.count .retransmitDedup + s.lines .retransmit +
      s.standing afterHit
  errors : s.count .cacheErrors = s.lines .cacheRetrieve + s.lines .egressWrite
  writes : s.lines .egressWrite ≤ s.lines .retransmit
  acks : server.retransmitMC = true → s.answered .ack ≤ s.count .retransmits + s.count .unicastRetransmits
  misses : s.answered .miss ≤ s.count .cacheMisses
  throttled : s.answered .throttled ≤
    s.count (.rateLimitDrops .sequence) + s.count (.rateLimitDrops .chain) + s.count (.rateLimitDrops .group)

section Effects
variable {server : Server}

@[simp] theorem labelThrottled (flags : UInt8) (seq : UInt64) :
    label (response msgTypeThrottled flags seq) = .throttled := by
  simp [label]

@[simp] theorem labelMiss (flags : UInt8) (seq : UInt64) : label (response msgTypeMISS flags seq) = .miss := by
  simp [label, msgTypeMISS, msgTypeThrottled]

@[simp] theorem labelAck (flags : UInt8) (seq : UInt64) : label (response msgTypeACK flags seq) = .ack := by
  simp [label, msgTypeACK, msgTypeMISS, msgTypeThrottled]

theorem answeredCount (o : Outcome) (wireFails : Bool) (l : Label) :
    o.count wireFails (.responsesSent l) + o.count wireFails (.responseSendErrors l) =
      o.effects.countP (answers l) := by
  have sent : o.own (.responsesSent l) = 0 := by cases o <;> rfl
  have errors : o.own (.responseSendErrors l) = 0 := by cases o <;> rfl
  cases wireFails <;> simp [Outcome.count, effectCount, sent, errors]

structure Replies (l : Label) (fx : List Effect) : Prop where
  only : ∀ e ∈ fx, (∃ dst msg, e = .respond dst msg ∧ label msg = l) ∨ ∃ key seq sub src, e = .enqueue key seq sub src
  one : fx.countP (answers l) ≤ 1

theorem throttleReplies (src : Option UDPAddr) (bucket : UInt8) (seq : UInt64) :
    Replies .throttled (server.throttle src bucket seq) := by
  unfold Server.throttle
  split
  · split
    · exact ⟨fun e mem => .inl ⟨_, _, List.mem_singleton.mp mem, labelThrottled ..⟩, List.countP_le_length⟩
    · exact ⟨nofun, Nat.zero_le _⟩
  · exact ⟨nofun, Nat.zero_le _⟩

theorem missedReplies (n : Nack) (src : Option UDPAddr) : Replies .miss (server.missed n src) := by
  unfold Server.missed Server.miss
  refine ⟨?_, ?_⟩
  · intro e mem
    rcases List.mem_append.mp mem with reply | queued
    · split at reply <;> try split at reply
      all_goals first
        | exact .inl ⟨_, _, List.mem_singleton.mp reply, labelMiss ..⟩
        | cases reply
    · split at queued
      · exact .inr ⟨_, _, _, _, List.mem_singleton.mp queued⟩
      · cases queued
  · rw [List.countP_append]
    have queued : (if server.proxy && !n.proxied then
        [Effect.enqueue n.hashKey n.startSeq n.subtreeID src] else []).countP (answers .miss) = 0 := by
      split <;> rfl
    rw [queued]
    refine List.countP_le_length.trans ?_
    split <;> try split
    all_goals simp

theorem Replies.none {l : Label} {fx : List Effect} (h : Replies l fx) {p : Effect → Bool}
    (respond : ∀ dst msg, label msg = l → p (.respond dst msg) = false)
    (enqueue : ∀ key seq sub src, p (.enqueue key seq sub src) = false) : fx.countP p = 0 := by
  rw [List.countP_eq_zero]
  intro e mem
  rcases h.only e mem with ⟨dst, msg, rfl, same⟩ | ⟨key, seq, sub, src, rfl⟩
  · simp [respond dst msg same]
  · simp [enqueue]

theorem Replies.others {l l' : Label} {fx : List Effect} (h : Replies l fx) (other : l ≠ l') :
    fx.countP (answers l') = 0 :=
  h.none (fun _ _ same => by simp [answers, same, other]) (fun _ _ _ _ => rfl)

theorem Replies.unsent {l : Label} {fx : List Effect} (h : Replies l fx) (other : l ≠ .ack) :
    fx.countP multicastOut = 0 ∧ fx.countP dedupedOut = 0 ∧ fx.countP failedOut = 0 ∧
      fx.countP (answers .ack) = 0 :=
  ⟨h.none (fun _ _ _ => rfl) (fun _ _ _ _ => rfl), h.none (fun _ _ _ => rfl) (fun _ _ _ _ => rfl),
    h.none (fun _ _ _ => rfl) (fun _ _ _ _ => rfl), h.others other⟩

structure Closes (tried : Bool) (fx : List Effect) : Prop where
  only : ∀ e ∈ fx, (∃ dst msg, e = .respond dst msg ∧ label msg = .ack) ∨ ∃ raw dst ok, e = .unicast raw dst ok
  one : fx.countP (answers .ack) ≤ 1
  honest : tried = true → fx.countP (answers .ack) ≤ fx.countP copyOut

theorem ackCloses (n : Nack) (src : Option UDPAddr) (flags : UInt8) :
    Closes (server.attempted n src && flags == 0) (server.ack n src flags) := by
  unfold Server.ack
  split
  · split
    · rename_i send
      refine ⟨fun e mem => .inl ⟨_, _, List.mem_singleton.mp mem, labelAck ..⟩, List.countP_le_length, ?_⟩
      intro tried
      obtain ⟨attempted, zero⟩ := Bool.and_eq_true_iff.mp tried
      rw [attempted, eq_of_beq zero] at send
      simp at send
    · exact ⟨nofun, Nat.zero_le _, fun _ => Nat.zero_le _⟩
  · exact ⟨nofun, Nat.zero_le _, fun _ => Nat.zero_le _⟩

theorem Closes.copy {tried tried' : Bool} {fx : List Effect} (h : Closes tried fx) (raw : Bytes) (dst : UDPAddr)
    (ok : Bool) (same : ok = false → tried' = true → tried = true) : Closes tried' (.unicast raw dst ok :: fx) where
  only := by
    intro e mem
    rcases List.mem_cons.mp mem with rfl | mem
    · exact .inr ⟨_, _, _, rfl⟩
    · exact h.only e mem
  one := by simpa [List.countP_cons, answers] using h.one
  honest := by
    intro tries
    cases ok with
    | true => simpa [List.countP_cons, answers, copyOut] using h.one.trans (Nat.le_add_left ..)
    | false => simpa [List.countP_cons, answers, copyOut] using h.honest (same rfl tries)

theorem unicastCloses (env : Env server.retransmit) (n : Nack) (src : Option UDPAddr) (raw : Bytes) (flags : UInt8) :
    Closes (server.attempted n src && flags == 0) (server.unicastAndAck env n src raw flags) := by
  unfold Server.unicastAndAck
  split
  · rename_i dst
    split
    · refine (ackCloses ..).copy _ _ _ ?_
      intro failed tried
      simpa [failed] using tried
    · exact ackCloses ..
  · exact ackCloses ..

theorem Closes.none {tried : Bool} {fx : List Effect} (h : Closes tried fx) {p : Effect → Bool}
    (respond : ∀ dst msg, label msg = .ack → p (.respond dst msg) = false)
    (unicast : ∀ raw dst ok, p (.unicast raw dst ok) = false) : fx.countP p = 0 := by
  rw [List.countP_eq_zero]
  intro e mem
  rcases h.only e mem with ⟨dst, msg, rfl, same⟩ | ⟨raw, dst, ok, rfl⟩
  · simp [respond dst msg same]
  · simp [unicast]

theorem writesFailed (fx : List Effect) : fx.countP writeFailed ≤ fx.countP failedOut := by
  refine List.countP_mono_left ?_
  intro e _ wrote
  unfold writeFailed at wrote
  split at wrote
  · rfl
  · cases wrote

structure Sends (server : Server) (fx : List Effect) : Prop where
  labels : ∀ l, l ≠ .ack → fx.countP (answers l) = 0
  multicast : server.retransmitMC = true →
    fx.countP multicastOut + fx.countP dedupedOut + fx.countP failedOut = 1
  acks : server.retransmitMC = true → fx.countP (answers .ack) ≤ fx.countP multicastOut + fx.countP copyOut

theorem Closes.alone {tried : Bool} {fx : List Effect} (h : Closes tried fx) (off : server.retransmitMC = false) :
    Sends server fx where
  labels l other := h.none (fun _ _ same => by simp [answers, same, other.symm]) (fun _ _ _ => rfl)
  multicast on := by
    rw [off] at on
    cases on
  acks on := by
    rw [off] at on
    cases on

theorem Closes.after {tried : Bool} {fx : List Effect} (h : Closes tried fx) (raw txID : Bytes) (result : Result)
    (writes : List Write) (honest : result = .sent ∨ tried = true) :
    Sends server (.retransmit raw txID result writes :: fx) := by
  have multicast : fx.countP multicastOut = 0 := h.none (fun _ _ _ => rfl) (fun _ _ _ => rfl)
  have deduped : fx.countP dedupedOut = 0 := h.none (fun _ _ _ => rfl) (fun _ _ _ => rfl)
  have failed : fx.countP failedOut = 0 := h.none (fun _ _ _ => rfl) (fun _ _ _ => rfl)
  refine ⟨?_, ?_, ?_⟩
  · intro l other
    rw [List.countP_cons, h.none (fun _ _ same => by simp [answers, same, other.symm]) (fun _ _ _ => rfl)]
    rfl
  · intro _
    rw [List.countP_cons, List.countP_cons, List.countP_cons, multicast, deduped, failed]
    cases result <;> rfl
  · intro _
    rw [List.countP_cons, List.countP_cons, List.countP_cons, multicast]
    rcases honest with rfl | tries
    · simpa [answers, multicastOut, copyOut] using h.one.trans (Nat.le_add_right ..)
    · have acks := h.honest tries
      simp only [answers, copyOut, Bool.false_eq_true, if_false, Nat.add_zero]
      omega

theorem dispatchSends (lib : FrameLib) (env : Env server.retransmit) (n : Nack) (src : Option UDPAddr) (raw : Bytes)
    (b : Backend) : Sends server (server.dispatch lib env n src raw b).1 := by
  unfold Server.dispatch
  split
  · rename_i on
    have tried : ∀ flags : UInt8, (server.attempted n src && flags == 0) = (flags == 0) := by
      intro flags
      rw [Server.attempted, on, Bool.true_or, Bool.true_and]
    dsimp only
    split
    · rename_i sent
      exact (unicastCloses ..).after _ _ _ _ (.inl sent)
    · exact (unicastCloses ..).after _ _ _ _ (.inr (tried 0))
    · have nothing : Closes true [] := ⟨nofun, Nat.zero_le _, fun _ => Nat.zero_le _⟩
      exact nothing.after _ _ _ _ (.inr rfl)
  · rename_i off
    exact (unicastCloses ..).alone (Bool.eq_false_iff.mpr off)

end Effects

section Entries
variable (o : Outcome) (wireFails : Bool)

theorem countMulticast : o.count wireFails .retransmits = o.effects.countP multicastOut := by
  cases o <;> simp [Outcome.count, Outcome.own, effectCount]

theorem countDeduped : o.count wireFails .retransmitDedup = o.effects.countP dedupedOut := by
  cases o <;> simp [Outcome.count, Outcome.own, effectCount]

theorem countCopies : o.count wireFails .unicastRetransmits = o.effects.countP copyOut := by
  cases o <;> simp [Outcome.count, Outcome.own, effectCount]

theorem countErrors : o.count wireFails .cacheErrors = o.lines .cacheRetrieve + o.lines .egressWrite := by
  cases o <;> rfl

end Entries

structure Fits (server : Server) (o : Outcome) (refusals : Nat) (before after : Option Phase) : Prop where
  tiers : o.own .nackRequests + before.elim 0 beforeLookup = refusals + o.own (.rateLimitDrops .ip) +
    o.own (.rateLimitDrops .sequence) + o.own (.rateLimitDrops .chain) + o.lines .cacheRetrieve +
      o.own .cacheMisses + o.own .cacheHits + after.elim 0 beforeLookup
  sends : server.retransmitMC = true → o.own .cacheHits + before.elim 0 afterHit =
    o.own (.rateLimitDrops .group) + o.effects.countP multicastOut + o.effects.countP dedupedOut +
      o.lines .retransmit + after.elim 0 afterHit
  acks : server.retransmitMC = true →
    o.effects.countP (answers .ack) ≤ o.effects.countP multicastOut + o.effects.countP copyOut
  misses : o.effects.countP (answers .miss) ≤ o.own .cacheMisses
  throttled : o.effects.countP (answers .throttled) ≤
    o.own (.rateLimitDrops .sequence) + o.own (.rateLimitDrops .chain) + o.own (.rateLimitDrops .group)

section Keeps
variable {rt : Runtime β} {lib : FrameLib} {server : Server} {workers : Nat} {s s' : State β}

theorem fitsSilent {o : Outcome} {refusals : Nat} {before after : Option Phase} (silent : o.effects = [])
    (tiers : o.own .nackRequests + before.elim 0 beforeLookup = refusals + o.own (.rateLimitDrops .ip) +
      o.own (.rateLimitDrops .sequence) + o.own (.rateLimitDrops .chain) + o.lines .cacheRetrieve +
        o.own .cacheMisses + o.own .cacheHits + after.elim 0 beforeLookup)
    (sends : o.own .cacheHits + before.elim 0 afterHit = o.own (.rateLimitDrops .group) + after.elim 0 afterHit) :
    Fits server o refusals before after where
  tiers := tiers
  sends _ := by
    rw [Outcome.lines, silent]
    exact sends
  acks _ := by
    rw [silent]
    exact Nat.zero_le _
  misses := by
    rw [silent]
    exact Nat.zero_le _
  throttled := by
    rw [silent]
    exact Nat.zero_le _

theorem fitsDropped {level : Level} {fx : List Effect} {phase : Phase} (replies : Replies .throttled fx)
    (loud : level ≠ .ip) (before : beforeLookup phase = if level = .group then 0 else 1)
    (after : afterHit phase = if level = .group then 1 else 0) :
    Fits server (.dropped level fx) 0 (some phase) (some .done) := by
  obtain ⟨multicast, deduped, failed, acks⟩ := replies.unsent nofun
  refine ⟨?_, ?_, ?_, Nat.le_of_eq (replies.others nofun), ?_⟩
  · rw [Option.elim_some, before]
    cases level <;> rfl
  · intro _
    rw [Option.elim_some, after, Outcome.lines, Outcome.effects, multicast, deduped, failed]
    cases level <;> rfl
  · intro _
    rw [Outcome.effects, acks]
    exact Nat.zero_le _
  · cases level with
    | ip => exact absurd rfl loud
    | _ => exact replies.one

theorem fitsMissed {fx : List Effect} {seqAt : Int} {chainAt : Option Int} (replies : Replies .miss fx) :
    Fits server (.missed fx) 0 (some (.lookup seqAt chainAt)) (some .done) := by
  obtain ⟨multicast, deduped, failed, acks⟩ := replies.unsent nofun
  refine ⟨rfl, ?_, ?_, replies.one, Nat.le_of_eq (replies.others nofun)⟩
  · intro _
    rw [Outcome.lines, Outcome.effects, multicast, deduped, failed]
    rfl
  · intro _
    rw [Outcome.effects, acks]
    exact Nat.zero_le _

theorem fitsSent {fx : List Effect} {raw : Bytes} (sends : Sends server fx) :
    Fits server (.sent fx) 0 (some (.send raw)) (some .done) where
  tiers := rfl
  sends on := by
    have one := sends.multicast on
    dsimp only [Outcome.own, Outcome.lines, Outcome.effects, Option.elim, afterHit]
    omega
  acks := sends.acks
  misses := Nat.le_of_eq (sends.labels .miss nofun)
  throttled := Nat.le_of_eq (sends.labels .throttled nofun)

theorem Balanced.enter (h : Balanced server s) {o : Outcome} {wireFails : Bool} {next : ServerRun.State β}
    {refusals : Nat} {before after : Option Phase} (fits : Fits server o refusals before after)
    (taken : next.pool.taken.length = s.server.pool.taken.length + o.own .nackRequests)
    (refusing : next.pool.taken.countP refused = s.server.pool.taken.countP refused + refusals)
    (moved : ∀ weight, total weight next.pool.taken.length next.calls.calls + before.elim 0 weight =
      s.standing weight + after.elim 0 weight) : Balanced server (s.enter o wireFails next) := by
  have answered : ∀ l, (s.enter o wireFails next).answered l = s.answered l + o.effects.countP (answers l) := by
    intro l
    rw [← answeredCount o wireFails l]
    exact Nat.add_add_add_comm ..
  have multicast := countMulticast o wireFails
  have deduped := countDeduped o wireFails
  have copies := countCopies o wireFails
  refine ⟨?_, ?_, ?_, ?_, Nat.add_le_add h.writes (writesFailed _), ?_, ?_, ?_⟩
  · exact (congrArg (· + _) h.requests).trans taken.symm
  · have balance := h.tiers
    have tiers := fits.tiers
    have standing := moved beforeLookup
    dsimp only [State.enter, State.standing, Outcome.count, effectCount] at *
    omega
  · intro on
    have balance := h.sends on
    have sends := fits.sends on
    have standing := moved afterHit
    dsimp only [State.enter, State.standing, Outcome.count, effectCount] at *
    omega
  · have balance := h.errors
    have errors := countErrors o wireFails
    dsimp only [State.enter] at *
    omega
  · intro on
    have balance := h.acks on
    have acks := fits.acks on
    rw [answered]
    dsimp only [State.enter] at *
    omega
  · rw [answered]
    exact Nat.add_le_add h.misses fits.misses
  · rw [answered]
    have balance := h.throttled
    have throttled := fits.throttled
    dsimp only [State.enter, Outcome.count, effectCount] at *
    omega

theorem Balanced.turn (h : Balanced server s) {wireFails : Bool} {next : ServerRun.State β}
    (taken : next.pool.taken = s.server.pool.taken) (calls : next.calls.calls = s.server.calls.calls) :
    Balanced server (s.enter .quiet wireFails next) := by
  have fits : Fits server .quiet 0 none none := fitsSilent rfl rfl rfl
  refine h.enter fits (congrArg List.length taken) (congrArg (List.countP refused) taken) ?_
  intro weight
  rw [taken, calls]
  rfl

theorem Balanced.begin (h : Balanced server s) {wireFails : Bool} {next : ServerRun.State β} {req : Request}
    {phase : Phase} (first : beforeLookup phase = if refused req then 0 else 1) (early : afterHit phase = 0)
    (taken : next.pool.taken = s.server.pool.taken ++ [req])
    (calls : next.calls.calls =
      Function.update s.server.calls.calls s.server.pool.taken.length (some (req, phase))) :
    Balanced server (s.enter .begun wireFails next) := by
  have fits : Fits server .begun (if refused req then 1 else 0) none (some phase) := by
    refine fitsSilent rfl ?_ ?_
    · rw [Option.elim_some, first]
      cases refused req <;> rfl
    · rw [Option.elim_some, early]
      rfl
  refine h.enter fits ?_ ?_ ?_
  · rw [taken, List.length_append]
    rfl
  · rw [taken, List.countP_append, List.countP_singleton]
  · intro weight
    rw [taken, calls, List.length_append, List.length_singleton, totalBegin]
    rfl

theorem Balanced.move (h : Balanced server s) {o : Outcome} {wireFails : Bool} {next : ServerRun.State β} {id : Nat}
    {req : Request} {phase phase' : Phase} (here : s.server.calls.calls id = some (req, phase))
    (low : id < s.server.pool.taken.length) (taken : next.pool.taken = s.server.pool.taken)
    (calls : next.calls.calls = Function.update s.server.calls.calls id (some (req, phase')))
    (later : o.own .nackRequests = 0) (fits : Fits server o 0 (some phase) (some phase')) :
    Balanced server (s.enter o wireFails next) := by
  refine h.enter fits ?_ (congrArg (List.countP refused) taken) ?_
  · rw [taken, later]
    rfl
  · intro weight
    rw [taken, calls]
    exact totalMove weight low here phase'

theorem initBalanced (server : Server) (workers : Nat) (limiter : Limiter β) (b : Backend) :
    Balanced server (init workers limiter b) where
  requests := rfl
  tiers := rfl
  sends _ := rfl
  errors := rfl
  writes := Nat.le_refl _
  acks _ := Nat.le_refl _
  misses := Nat.le_refl _
  throttled := Nat.le_refl _

theorem callBalanced {a : NackWorkers.Action server} {calls : NackWorkers.State β} {wireFails : Bool}
    (h : Balanced server s) (sound : ServerRun.Sound workers s.server) (later : ServerRun.begins a = false)
    (moved : NackWorkers.step rt lib server s.server.calls a = some calls) :
    Balanced server (s.enter (callOutcome rt lib server s.server.calls a) wireFails
      { s.server with calls := calls }) := by
  cases NackWorkers.stepTook moved with
  | tick | outside => exact h.turn rfl rfl
  | refused | arrived => cases later
  | ipPassed here tier | ipDenied here tier | groupPassed here tier =>
    rw [callOutcome, here]
    dsimp only
    rw [tier]
    exact h.move here (sound.tracked.low here) rfl rfl rfl (fitsSilent rfl rfl rfl)
  | seqPassed here tier | chainPassed here tier =>
    simp only [callOutcome, here, tier]
    exact h.move here (sound.tracked.low here) rfl rfl rfl (fitsSilent rfl rfl rfl)
  | groupDenied here tier =>
    rw [callOutcome, here]
    dsimp only
    rw [tier]
    exact h.move here (sound.tracked.low here) rfl rfl rfl (fitsDropped (throttleReplies ..) nofun rfl rfl)
  | seqDenied here tier | chainDenied here tier =>
    simp only [callOutcome, here, tier]
    exact h.move here (sound.tracked.low here) rfl rfl rfl (fitsDropped (throttleReplies ..) nofun rfl rfl)
  | failed here answer | hit here answer =>
    simp only [callOutcome, here, answer]
    exact h.move here (sound.tracked.low here) rfl rfl rfl (fitsSilent rfl rfl rfl)
  | missed here answer =>
    simp only [callOutcome, here, answer]
    exact h.move here (sound.tracked.low here) rfl rfl rfl (fitsMissed (missedReplies ..))
  | sent here sends =>
    rw [callOutcome, here]
    exact h.move here (sound.tracked.low here) rfl rfl rfl (fitsSent (dispatchSends ..))

theorem arriveRefused (calls : NackWorkers.State β) (id : Nat) (req : Request) :
    arrive calls id req = calls.move id req (if refused req then .done else .ip) [] := by
  unfold arrive refused
  cases validateNACK req.datagram with
  | error e => rfl
  | ok valid => by_cases range : req.nack.endSeq = req.nack.startSeq <;> simp [range]

structure Kept (server : Server) (workers : Nat) (s : State β) : Prop where
  sound : ServerRun.Sound workers s.server
  balanced : Balanced server s

theorem stepKept {a : Action server} (h : Kept server workers s) (stepped : step rt lib server s a = some s') :
    Kept server workers s' := by
  obtain ⟨next, moved, same⟩ := Option.bind_eq_some_iff.mp stepped
  cases Option.some.inj same
  refine ⟨ServerRun.stepSound h.sound moved, ?_⟩
  obtain ⟨act, wireFails⟩ := a
  cases act with
  | take i =>
    obtain ⟨⟨req, pool⟩, took, moved⟩ := Option.bind_eq_some_iff.mp moved
    obtain ⟨calls, begun, moved⟩ := Option.bind_eq_some_iff.mp moved
    cases Option.some.inj moved
    obtain ⟨rest, -, -, rfl⟩ := takeMoved took
    simp only [NackWorkers.step] at begun
    split at begun <;> try contradiction
    cases Option.some.inj begun
    refine h.balanced.begin ?_ ?_ rfl (congrArg NackWorkers.State.calls (arriveRefused ..))
    · cases refused req <;> rfl
    · cases refused req <;> rfl
  | call a =>
    simp only [ServerRun.step] at moved
    split at moved <;> try contradiction
    rename_i later
    obtain ⟨calls, inner, moved⟩ := Option.bind_eq_some_iff.mp moved
    cases Option.some.inj moved
    exact callBalanced h.balanced h.sound (Bool.eq_false_iff.mpr later) inner
  | cancel | look | read | send | giveUp | join | finish | exit =>
    cases ServerRun.stepTook moved with
    | _ => exact h.balanced.turn rfl rfl

end Keeps

def threeRead : List (Action (endpoint true true)) :=
  ([.look, .read (.datagram (List.replicate 64 0) (some listener)), .send, .take 0, .finish 0 0, .look,
    .read (.datagram (ask 0) (some listener)), .send, .take 0, .call (.ip 1), .call (.sequence 1), .call (.chain 1),
    .call (.look 1 false), .call (.group 1 (calm true true false))].map (⟨·, false⟩)) ++
  [⟨.call (.send 1 (calm true true false)), true⟩] ++
  ([.finish 0 1, .look, .read (.datagram (ask 0) (some listener)), .send, .take 0, .cancel, .look, .call (.ip 2),
    .call (.sequence 2), .call (.chain 2), .call (.look 2 false), .call (.group 2 (calm true true true)),
    .call (.send 2 (calm true true true)), .finish 0 2, .exit 0, .join].map (⟨·, false⟩))

section Reached
variable {rt : Runtime β} {lib : FrameLib} {server : Server} {workers : Nat} {s : State β}
  {limiter : Limiter β} {b : Backend} {acts : List (Action server)}

theorem balancedReached (ran : run (step rt lib server) (init workers limiter b) acts = some s) :
    Kept server workers s :=
  invariant (fun _ _ _ kept stepped => stepKept kept stepped) ⟨ServerRun.initSound .., initBalanced ..⟩ ran

/-- Over every run of the server what it adds to the counters adds up: a request counted is one a
worker took, and it is refused, turned away by a tier, failed at the lookup, a miss, a hit, or
still before its lookup; a hit of a multicasting server is turned away by the group tier, sent,
suppressed, failed with a line in the log, or still on its way, and its ACKs are no more than
the sends. The cache errors it counts are lookups and egress writes together, the other answers
are no more than the misses and the drops, and once Run has returned nothing is on its way. -/
theorem countersBalance (ran : run (step rt lib server) (init workers limiter b) acts = some s) :
    Balanced server s ∧ ∀ lost, s.server.reader = .returned lost →
      s.standing beforeLookup = 0 ∧ s.standing afterHit = 0 := by
  obtain ⟨sound, balanced⟩ := balancedReached ran
  refine ⟨balanced, fun lost returned => ?_⟩
  have none : ∀ weight : Phase → Nat, weight .done = 0 → s.standing weight = 0 := by
    intro weight rest
    refine totalGone sound.pool sound.tracked (sound.gone lost returned) ?_
    intro phase through
    rw [doneIs through, rest]
  exact ⟨none _ rfl, none _ rfl⟩

theorem countersBalanceMixed : ∃ s, run (step Runtime.plenty FrameLib.plain (endpoint true true))
      (init 1 warm.limiter warm.backend) threeRead = some s ∧
    s.server.reader = .returned none ∧ s.count .nackRequests = 3 ∧ s.count .cacheHits = 2 ∧
    s.count .retransmits = 1 ∧ s.count .cacheErrors = 1 ∧ s.count (.responseSendErrors .ack) = 1 ∧
    s.count .cacheHits = s.count (.rateLimitDrops .group) + s.count .retransmits + s.count .retransmitDedup +
      s.lines .retransmit := by
  have computed : (run (step Runtime.plenty FrameLib.plain (endpoint true true))
      (init 1 warm.limiter warm.backend) threeRead).map
      (fun s => (s.server.reader, s.count .nackRequests, s.count .cacheHits, s.count .retransmits,
        s.count .cacheErrors, s.count (.responseSendErrors .ack))) =
      some (.returned none, 3, 2, 1, 1, 1) := by
    decide +kernel
  obtain ⟨s, ran, seen⟩ := Option.map_eq_some_iff.mp computed
  simp only [Prod.mk.injEq] at seen
  obtain ⟨returned, requests, hits, sent, errors, lost⟩ := seen
  obtain ⟨balanced, ended⟩ := countersBalance ran
  have sends := balanced.sends rfl
  rw [(ended none returned).2] at sends
  exact ⟨s, ran, returned, requests, hits, sent, errors, lost, sends⟩

end Reached

end RetryEndpoint.ServerAccounts
