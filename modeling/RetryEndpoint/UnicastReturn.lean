import RetryEndpoint.AckHonesty

/-! The unicast copy of a proxied NACK, the one channel a downstream proxy has.
It comes after the multicast step, and an error of that step returns before it. -/
namespace RetryEndpoint.UnicastReturn
open BigEndian Wire Cache Retransmit RateLimit NackServer AckHonesty

structure MulticastBreaks (lib : FrameLib) (s : Server) (env : Env s.retransmit) (raw : Bytes)
    (b : Backend) : Prop where
  on : s.retransmitMC = true
  claimed : (s.retransmit.gate raw b env.dedupFault env.dedupNow).1 = true
  broken : (∃ e, s.retransmit.targetGroup lib raw (frameTxID raw) = .error e) ∨
    ∃ iface ∈ s.retransmit.sockets, env.egressFails iface = true

theorem multicastBreaks {lib : FrameLib} {s : Server} {env : Env s.retransmit} {raw : Bytes}
    {b : Backend} : MulticastBreaks lib s env raw b ↔
      s.retransmitMC = true ∧ ∃ e, (s.multicast lib env raw b).1 = .failed e := by
  rw [Server.multicast, retransmitFails]
  constructor
  · rintro ⟨on, claimed, noGroup | ⟨iface, mem, fails⟩⟩
    · exact ⟨on, claimed, .inl noGroup⟩
    · exact ⟨on, claimed, .inr ⟨iface, env.visits.mem_iff.mpr mem, fails⟩⟩
  · rintro ⟨on, claimed, noGroup | ⟨iface, mem, fails⟩⟩
    · exact ⟨on, claimed, .inl noGroup⟩
    · exact ⟨on, claimed, .inr ⟨iface, env.visits.mem_iff.mp mem, fails⟩⟩

theorem answerCopies {s : Server} {env : Env s.retransmit} {n : Nack} {dst : UDPAddr} {raw : Bytes}
    {flags : UInt8} (proxied : n.proxied = true) :
    ∃ ok, .unicast raw dst ok ∈ s.unicastAndAck env n (some dst) raw flags := by
  refine ⟨s.retransmit.retransmitUnicast (some dst) env.unicastFails, ?_⟩
  simp [Server.unicastAndAck, proxied]

theorem dispatchCopies {lib : FrameLib} {s : Server} {env : Env s.retransmit} {n : Nack}
    {dst : UDPAddr} {raw : Bytes} {b : Backend} (proxied : n.proxied = true) :
    (∃ ok, .unicast raw dst ok ∈ (s.dispatch lib env n (some dst) raw b).1) ↔
      ¬ MulticastBreaks lib s env raw b := by
  rw [multicastBreaks]
  unfold Server.dispatch
  split
  · rename_i on
    dsimp only
    cases outcome : (s.multicast lib env raw b).1 with
    | sent =>
      obtain ⟨ok, mem⟩ := @answerCopies s env n dst raw ackFlagMulticastSent proxied
      exact ⟨fun _ breaks => by simp at breaks, fun _ => ⟨ok, List.mem_cons_of_mem _ mem⟩⟩
    | suppressed =>
      obtain ⟨ok, mem⟩ := @answerCopies s env n dst raw 0 proxied
      exact ⟨fun _ breaks => by simp at breaks, fun _ => ⟨ok, List.mem_cons_of_mem _ mem⟩⟩
    | failed e => simp [on]
  · rename_i off
    obtain ⟨ok, mem⟩ := @answerCopies s env n dst raw 0 proxied
    exact ⟨fun _ breaks => off breaks.1, fun _ => ⟨ok, mem⟩⟩

/-- A proxied NACK that every tier admits and the cache answers gets its copy
exactly when the multicast step does not break. -/
theorem proxiedCopied {β : Type} (rt : Runtime β) (lib : FrameLib) (s : Server)
    (env : Env s.retransmit) (datagram raw : Bytes) (dst : UDPAddr) (st : State β)
    (limiter last : Limiter β) (proxied : (parseNACK datagram).proxied = true)
    (admitted : Admitted rt env datagram (some dst) st limiter)
    (hit : s.found env datagram st = .ok (some raw))
    (group : s.chargeGroup rt lib env (some dst) raw limiter = (true, last)) :
    ∃ fx st', s.processNACK rt lib env datagram (some dst) st = some (fx, st') ∧
      ((∃ ok, .unicast raw dst ok ∈ fx) ↔ ¬ MulticastBreaks lib s env raw st.backend) :=
  ⟨_, _, servedReturns admitted hit group, dispatchCopies proxied⟩

theorem proxiedCopiedQuiet :
    ∃ fx st', (endpoint false false).processNACK Runtime.plenty FrameLib.plain (calm false false true)
        (ask flagProxied) (some listener) warm = some (fx, st') ∧
      ((∃ ok, .unicast cachedFrame listener ok ∈ fx) ↔
        ¬ MulticastBreaks FrameLib.plain (endpoint false false) (calm false false true) cachedFrame
          warm.backend) :=
  proxiedCopied Runtime.plenty FrameLib.plain (endpoint false false) (calm false false true)
    (ask flagProxied) cachedFrame listener warm _ _ (by decide)
    ⟨by rfl, by decide, _, by rfl, by rfl⟩ (by rfl) (by rfl)

/- One socket's write fails, and with it the copy that had nothing to do with it. -/
theorem proxiedNotCopied :
    ¬ ∀ (rt : Runtime Unit) (lib : FrameLib) (s : Server) (env : Env s.retransmit)
      (datagram raw : Bytes) (dst : UDPAddr) (st : State Unit) (limiter last : Limiter Unit),
      (parseNACK datagram).proxied = true → Admitted rt env datagram (some dst) st limiter →
      s.found env datagram st = .ok (some raw) →
      s.chargeGroup rt lib env (some dst) raw limiter = (true, last) →
      ∃ fx st', s.processNACK rt lib env datagram (some dst) st = some (fx, st') ∧
        ∃ ok, .unicast raw dst ok ∈ fx := by
  intro always
  have computed : ((endpoint true false).processNACK Runtime.plenty FrameLib.plain
      (calm true false true) (ask flagProxied) (some listener) warm).map (·.1) =
      some [.retransmit cachedFrame (List.replicate 32 0) (.failed (.write "eth0"))
        [⟨"eth0", ⟨[0xFF], 9000⟩, cachedFrame, false⟩]] := by rfl
  obtain ⟨fx, st', ran, ok, mem⟩ := always Runtime.plenty FrameLib.plain (endpoint true false)
    (calm true false true) (ask flagProxied) cachedFrame listener warm _ _ (by decide)
    ⟨by rfl, by decide, _, by rfl, by rfl⟩ (by rfl) (by rfl)
  rw [ran, Option.map_some, Option.some.injEq] at computed
  dsimp only at computed
  rw [computed] at mem
  simp at mem

end RetryEndpoint.UnicastReturn
