import RetryEndpoint.AckHonesty

/-! What a NACK of a spoofable source can make the endpoint send and change. The
response is one datagram of fixed size to the source itself, and whoever is turned
away is turned away before anything behind that point has moved: each rejection is
held against the tiers after it, the store and the proxy queue. -/
namespace RetryEndpoint.ResponseDiscipline
open BigEndian Wire Cache Retransmit RateLimit NackServer AckHonesty

def isResponse : Effect → Bool
  | .respond _ _ => true
  | _ => false

def Refused (datagram : Bytes) : Prop :=
  validateNACK datagram ≠ .ok () ∨ (parseNACK datagram).endSeq ≠ (parseNACK datagram).startSeq

def bucket : Level → UInt8
  | .ip => 0
  | .sequence => throttleBucketSequence
  | .chain => throttleBucketChain
  | .group => throttleBucketGroup

def LaterUntouched {β : Type} (before after : Limiter β) : Level → Prop
  | .ip => after.sequenceLimiter = before.sequenceLimiter ∧
      after.chainLimiter = before.chainLimiter ∧ after.groupLimiter = before.groupLimiter
  | .sequence => after.chainLimiter = before.chainLimiter ∧ after.groupLimiter = before.groupLimiter
  | .chain => after.groupLimiter = before.groupLimiter
  | .group => True

section Counts
variable {s : Server} {n : Nack} {src : Option UDPAddr} {raw : Bytes}

theorem throttleOnce {b : UInt8} {seqNum : UInt64} :
    (s.throttle src b seqNum).countP isResponse ≤ 1 := by
  unfold Server.throttle
  split
  · split
    · exact Nat.le_refl 1
    · exact Nat.zero_le 1
  · exact Nat.zero_le 1

theorem ackOnce {flags : UInt8} : (s.ack n src flags).countP isResponse ≤ 1 := by
  unfold Server.ack
  split
  · split
    · exact Nat.le_refl 1
    · exact Nat.zero_le 1
  · exact Nat.zero_le 1

theorem missOnce : (s.missed n src).countP isResponse ≤ 1 := by
  have answer : (s.miss src).countP isResponse ≤ 1 := by
    unfold Server.miss
    split
    · split
      · exact Nat.zero_le 1
      · exact Nat.le_refl 1
    · exact Nat.zero_le 1
  unfold Server.missed
  rw [List.countP_append]
  -- The job for the proxy behind it is no response.
  split
  · exact answer
  · exact answer

theorem unicastOnce {env : Env s.retransmit} {flags : UInt8} :
    (s.unicastAndAck env n src raw flags).countP isResponse ≤ 1 := by
  unfold Server.unicastAndAck
  split
  · split
    · rw [List.countP_cons_of_neg (by simp [isResponse])]
      exact ackOnce
    · exact ackOnce
  · exact ackOnce

theorem dispatchOnce {lib : FrameLib} {env : Env s.retransmit} {b : Backend} :
    (s.dispatch lib env n src raw b).1.countP isResponse ≤ 1 := by
  unfold Server.dispatch
  split
  · dsimp only
    split
    · rw [List.countP_cons_of_neg (by simp [isResponse])]
      exact unicastOnce
    · rw [List.countP_cons_of_neg (by simp [isResponse])]
      exact unicastOnce
    · exact Nat.zero_le 1
  · exact unicastOnce

end Counts

section Tiers
variable {β : Type} {rt : Runtime β} {r limiter : Limiter β} {srcIP : Bytes} {hashKey startSeq : UInt64}

theorem allowDenied {level : Level} {ipNow seqNow : Int}
    (denied : r.allow rt srcIP hashKey startSeq ipNow seqNow = some (some level, limiter)) :
    (level = .ip ∨ level = .sequence) ∧ LaterUntouched r limiter level := by
  generalize held : some level = decision at denied
  cases allowTook denied with
  | stopped =>
    cases Option.some.inj held
    exact ⟨.inl rfl, rfl, rfl, rfl⟩
  | @asked _ ok =>
    cases ok with
    | true => cases held
    | false =>
      cases Option.some.inj held
      exact ⟨.inr rfl, rfl, rfl⟩

theorem allowChainGroup {ok : Bool} {now : Int}
    (asked : r.allowChain rt srcIP hashKey now = some (ok, limiter)) :
    limiter.groupLimiter = r.groupLimiter := by
  cases chainTook asked with
  | unstamped | asked => rfl

end Tiers

section Process
variable {β : Type} (rt : Runtime β) (lib : FrameLib)

inductive Rejected (s : Server) (env : Env s.retransmit) (datagram : Bytes) (src : Option UDPAddr)
    (st : State β) : Level → Limiter β → Prop where
  | early {level limiter} (valid : validateNACK datagram = .ok ())
      (single : (parseNACK datagram).endSeq = (parseNACK datagram).startSeq)
      (tier : st.limiter.allow rt (sourceIP src) (parseNACK datagram).hashKey
        (parseNACK datagram).startSeq env.ipNow env.seqNow = some (some level, limiter)) :
      Rejected s env datagram src st level limiter
  | chain {between limiter} (valid : validateNACK datagram = .ok ())
      (single : (parseNACK datagram).endSeq = (parseNACK datagram).startSeq)
      (tier : st.limiter.allow rt (sourceIP src) (parseNACK datagram).hashKey
        (parseNACK datagram).startSeq env.ipNow env.seqNow = some (none, between))
      (chain : between.allowChain rt (sourceIP src) (parseNACK datagram).hashKey env.chainNow =
        some (false, limiter)) :
      Rejected s env datagram src st .chain limiter
  | group {limiter raw last} (admitted : Admitted rt env datagram src st limiter)
      (hit : s.found env datagram st = .ok (some raw))
      (group : s.chargeGroup rt lib env src raw limiter = (false, last)) :
      Rejected s env datagram src st .group last

structure Disciplined (s : Server) (env : Env s.retransmit) (datagram : Bytes)
    (src : Option UDPAddr) (st : State β) (fx : List Effect) (st' : State β) : Prop where
  once : fx.countP isResponse ≤ 1
  toSource : ∀ dst msg, .respond dst msg ∈ fx → src = some dst ∧ msg.length = responseSize
  silent : (Refused datagram ∨ ∃ limiter, Rejected rt lib s env datagram src st .ip limiter) → fx = []
  miss : ∀ dst msg, .respond dst msg ∈ fx → byteAt msg 6 = msgTypeMISS →
    (∃ limiter, Admitted rt env datagram src st limiter) ∧ s.found env datagram st = .ok none
  throttled : ∀ dst msg, .respond dst msg ∈ fx → byteAt msg 6 = msgTypeThrottled →
    s.throttleResp = true ∧
    (∃ level limiter, level ≠ .ip ∧ Rejected rt lib s env datagram src st level limiter ∧
      byteAt msg 7 = bucket level) ∧
    (byteAt msg 7).toNat < 16 ∧ uint64 (slice msg 8 16) = (parseNACK datagram).startSeq
  refused : Refused datagram → st' = st
  rejected : ∀ level limiter, Rejected rt lib s env datagram src st level limiter →
    LaterUntouched st.limiter st'.limiter level ∧ st'.backend = st.backend ∧
    ∀ hashKey seq subtree requester, .enqueue hashKey seq subtree requester ∉ fx

variable {rt lib}
variable {s : Server} {env : Env s.retransmit} {datagram : Bytes} {src : Option UDPAddr}
  {st st' : State β} {fx : List Effect}

theorem refusedReturns (refused : Refused datagram) :
    s.processNACK rt lib env datagram src st = some ([], st) := by
  unfold Server.processNACK
  rcases refused with bad | more
  · split
    · rfl
    · rename_i valid
      exact absurd valid bad
  · split
    · rfl
    · rw [if_pos more]

theorem rejectedReturns {level : Level} {limiter : Limiter β}
    (rejected : Rejected rt lib s env datagram src st level limiter) :
    s.processNACK rt lib env datagram src st =
      some (if level = .ip then [] else s.throttle src (bucket level) (parseNACK datagram).startSeq,
        { st with limiter := limiter }) := by
  cases rejected with
  | early valid single tier =>
    rcases (allowDenied tier).1 with rfl | rfl
    · simp [Server.processNACK, valid, single, tier]
    · simp [Server.processNACK, valid, single, tier, bucket]
  | chain valid single tier chain =>
    simp [Server.processNACK, valid, single, tier, chain, bucket]
  | @group between raw _ admitted hit group =>
    obtain ⟨valid, single, first, tier, chain⟩ := admitted
    have looked : s.cache.retrieve st.backend env.cacheFails env.cacheNow
        (flowKey (parseNACK datagram).hashKey (parseNACK datagram).startSeq) = .ok (some raw) := hit
    simp [Server.processNACK, valid, single, tier, chain, Server.lookup, looked, Server.serve, group,
      bucket]

theorem rejectedLater {level : Level} {limiter : Limiter β}
    (rejected : Rejected rt lib s env datagram src st level limiter) :
    LaterUntouched st.limiter limiter level := by
  cases rejected with
  | early valid single tier => exact (allowDenied tier).2
  | chain valid single tier chain => exact (allowChainGroup chain).trans (allowLater tier).2
  | group admitted hit group => trivial

theorem throttleNoJob {b : UInt8} {seqNum hashKey seq : UInt64} {subtree : Bytes}
    {requester : Option UDPAddr} : .enqueue hashKey seq subtree requester ∉ s.throttle src b seqNum := by
  intro mem
  obtain ⟨dst, -, never⟩ := throttleMem mem
  cases never

theorem throttleEnabled {b : UInt8} {seqNum : UInt64} {e : Effect}
    (mem : e ∈ s.throttle src b seqNum) : s.throttleResp = true := by
  unfold Server.throttle at mem
  split at mem
  · split at mem
    · assumption
    · cases mem
  · cases mem

inductive Answer (rt : Runtime β) (lib : FrameLib) (s : Server) (env : Env s.retransmit)
    (datagram : Bytes) (src : Option UDPAddr) (st : State β) : Bytes → Prop where
  | throttled {level limiter} (later : level ≠ .ip) (on : s.throttleResp = true)
      (rejected : Rejected rt lib s env datagram src st level limiter) :
      Answer rt lib s env datagram src st
        (response msgTypeThrottled (bucket level) (parseNACK datagram).startSeq)
  | miss {limiter} (admitted : Admitted rt env datagram src st limiter)
      (absent : s.found env datagram st = .ok none) :
      Answer rt lib s env datagram src st (response msgTypeMISS 0 0)
  | ack {flags} : Answer rt lib s env datagram src st
      (response msgTypeACK flags (parseNACK datagram).startSeq)

theorem throttleAnswer (level : Level) {limiter : Limiter β} {dst : UDPAddr} {msg : Bytes}
    (later : level ≠ .ip) (rejected : Rejected rt lib s env datagram src st level limiter)
    (mem : .respond dst msg ∈ s.throttle src (bucket level) (parseNACK datagram).startSeq) :
    src = some dst ∧ Answer rt lib s env datagram src st msg := by
  obtain ⟨peer, known, same⟩ := throttleMem mem
  cases same
  have masked : bucket level &&& 0x0F = bucket level := by cases level <;> rfl
  rw [masked]
  exact ⟨known, .throttled later (throttleEnabled mem) rejected⟩

theorem answerPoint (ran : s.processNACK rt lib env datagram src st = some (fx, st'))
    {dst : UDPAddr} {msg : Bytes} (mem : .respond dst msg ∈ fx) :
    src = some dst ∧ Answer rt lib s env datagram src st msg := by
  cases processed ran with
  | malformed bad => cases mem
  | range valid more => cases mem
  | denied valid single tier =>
    split at mem
    · rename_i isSequence
      subst isSequence
      exact throttleAnswer .sequence (by decide) (.early valid single tier) mem
    · cases mem
  | chainDenied valid single tier chain =>
    exact throttleAnswer .chain (by decide) (.chain valid single tier chain) mem
  | cacheError admitted failed => cases mem
  | miss admitted absent =>
    rcases missedMem mem with ⟨peer, known, same⟩ | ⟨-, never⟩
    · cases same
      exact ⟨known, .miss admitted absent⟩
    · cases never
  | groupDenied admitted hit group =>
    exact throttleAnswer .group (by decide) (.group admitted hit group) mem
  | served admitted hit group =>
    rcases dispatchMem mem with ⟨_, _, _, never, -⟩ | ⟨flags, answer⟩
    · cases never
    · rcases answerMem answer with ⟨_, -, never⟩ | ⟨flags', ack⟩
      · cases never
      · obtain ⟨peer, known, same, -⟩ := ackMem ack
        cases same
        exact ⟨known, .ack⟩

theorem answersOnce (ran : s.processNACK rt lib env datagram src st = some (fx, st')) :
    fx.countP isResponse ≤ 1 := by
  cases processed ran with
  | malformed bad => exact Nat.zero_le 1
  | range valid more => exact Nat.zero_le 1
  | denied valid single tier =>
    split
    · exact throttleOnce
    · exact Nat.zero_le 1
  | chainDenied valid single tier chain => exact throttleOnce
  | cacheError admitted failed => exact Nat.zero_le 1
  | miss admitted absent => exact missOnce
  | groupDenied admitted hit group => exact throttleOnce
  | served admitted hit group => exact dispatchOnce

end Process

/-- One call answers at most once, in sixteen bytes and to the NACK's own source.
It does nothing at all for what the parse or the first tier turns away, names a miss
or a throttle only where there is one, and a rejection leaves the tiers behind it,
the store and the proxy queue alone. -/
theorem disciplined {β : Type} (rt : Runtime β) (lib : FrameLib) (s : Server)
    (env : Env s.retransmit) (datagram : Bytes) (src : Option UDPAddr) (st st' : State β)
    (fx : List Effect) (ran : s.processNACK rt lib env datagram src st = some (fx, st')) :
    Disciplined rt lib s env datagram src st fx st' := by
  constructor
  case once => exact answersOnce ran
  case toSource =>
    intro dst msg mem
    obtain ⟨known, answer⟩ := answerPoint ran mem
    refine ⟨known, ?_⟩
    cases answer <;> exact responseLength ..
  case silent =>
    intro stopped
    rcases stopped with refused | ⟨limiter, rejected⟩
    · rw [refusedReturns refused] at ran
      exact (Prod.ext_iff.mp (Option.some.inj ran)).1.symm
    · rw [rejectedReturns rejected] at ran
      exact (Prod.ext_iff.mp (Option.some.inj ran)).1.symm
  case miss =>
    intro dst msg mem isMiss
    cases (answerPoint ran mem).2 with
    | throttled later on rejected =>
      rw [responseType] at isMiss
      exact absurd isMiss (by decide)
    | miss admitted absent => exact ⟨⟨_, admitted⟩, absent⟩
    | ack =>
      rw [responseType] at isMiss
      exact absurd isMiss (by decide)
  case throttled =>
    intro dst msg mem isThrottled
    cases (answerPoint ran mem).2 with
    | @throttled level limiter later on rejected =>
      refine ⟨on, ⟨level, limiter, later, rejected, responseFlags ..⟩, ?_, responseSeq ..⟩
      rw [responseFlags]
      cases level <;> decide
    | miss admitted absent =>
      rw [responseType] at isThrottled
      exact absurd isThrottled (by decide)
    | ack =>
      rw [responseType] at isThrottled
      exact absurd isThrottled (by decide)
  case refused =>
    intro refused
    rw [refusedReturns refused] at ran
    exact (Prod.ext_iff.mp (Option.some.inj ran)).2.symm
  case rejected =>
    intro level limiter rejected
    rw [rejectedReturns rejected] at ran
    cases Option.some.inj ran
    refine ⟨rejectedLater rejected, rfl, ?_⟩
    intro hashKey seq subtree requester mem
    split at mem
    · cases mem
    · exact throttleNoJob mem

theorem disciplinedThrottle :
    ∃ fx st', (endpoint true true).processNACK Runtime.plenty FrameLib.plain (calm true true false)
        (ask 0) (some listener) ⟨new Runtime.plenty ⟨1, 1, 0, 0, 0, 0, 0, 0, 0, 0⟩, warm.backend⟩ = some (fx, st') ∧
      fx = [.respond listener (response msgTypeThrottled throttleBucketSequence 9)] ∧
      Disciplined Runtime.plenty FrameLib.plain (endpoint true true) (calm true true false) (ask 0)
        (some listener) ⟨new Runtime.plenty ⟨1, 1, 0, 0, 0, 0, 0, 0, 0, 0⟩, warm.backend⟩ fx st' := by
  have computed : ((endpoint true true).processNACK Runtime.plenty FrameLib.plain
      (calm true true false) (ask 0) (some listener)
      ⟨new Runtime.plenty ⟨1, 1, 0, 0, 0, 0, 0, 0, 0, 0⟩, warm.backend⟩).map (·.1) =
      some [.respond listener (response msgTypeThrottled throttleBucketSequence 9)] := by rfl
  obtain ⟨⟨fx, st'⟩, ran, rfl⟩ := Option.map_eq_some_iff.mp computed
  exact ⟨_, st', ran, rfl, disciplined _ _ _ _ _ _ _ _ _ ran⟩

end RetryEndpoint.ResponseDiscipline
