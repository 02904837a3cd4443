import RetryEndpoint.NackServer

/-! What an ACK says. A listener cancels its gap on an ACK, so every bit of it is
held here against the sends the same call made: the effects of one processNACK
are split by the path it took, and only the path past all tiers with a cached
frame in hand ever answers with one. -/
namespace RetryEndpoint.AckHonesty
open BigEndian Wire Cache Retransmit RateLimit NackServer

section Answer
variable {s : Server} {env : Env s.retransmit} {n : Nack} {src : Option UDPAddr} {raw : Bytes}
  {flags : UInt8}

theorem ackMem {e : Effect} (mem : e ∈ s.ack n src flags) :
    ∃ dst, src = some dst ∧ e = .respond dst (response msgTypeACK flags n.startSeq) ∧
      (flags ≠ 0 ∨ s.attempted n src = false) := by
  unfold Server.ack at mem
  split at mem
  · rename_i dst
    split at mem
    · rename_i sends
      refine ⟨dst, rfl, List.mem_singleton.mp mem, ?_⟩
      simp only [Bool.and_eq_true, Bool.or_eq_true, bne_iff_ne, Bool.not_eq_true'] at sends
      exact sends.2
    · cases mem
  · cases mem

theorem answerMem {e : Effect} (mem : e ∈ s.unicastAndAck env n src raw flags) :
    (∃ dst, src = some dst ∧
      e = .unicast raw dst (s.retransmit.retransmitUnicast (some dst) env.unicastFails)) ∨
    ∃ flags', e ∈ s.ack n src flags' := by
  unfold Server.unicastAndAck at mem
  split at mem
  · rename_i dst
    split at mem
    · rcases List.mem_cons.mp mem with copy | answer
      · exact .inl ⟨dst, rfl, copy⟩
      · exact .inr ⟨_, answer⟩
    · exact .inr ⟨_, mem⟩
  · exact .inr ⟨_, mem⟩

theorem answerNoMulticast {frame txID : Bytes} {result : Result} {writes : List Write} :
    .retransmit frame txID result writes ∉ s.unicastAndAck env n src raw flags := by
  intro mem
  rcases answerMem mem with ⟨dst, -, same⟩ | ⟨flags', mem⟩
  · cases same
  · obtain ⟨dst, -, same, -⟩ := ackMem mem
    cases same

theorem answerUnicast {frame : Bytes} {dst : UDPAddr} {ok : Bool}
    (mem : .unicast frame dst ok ∈ s.unicastAndAck env n src raw flags) :
    frame = raw ∧ src = some dst ∧ (s.retransmitUC || n.proxied) = true := by
  rcases answerMem mem with ⟨dst', known, same⟩ | ⟨flags', mem'⟩
  · cases same
    refine ⟨rfl, known, ?_⟩
    by_cases wants : (s.retransmitUC || n.proxied) = true
    · exact wants
    · simp only [Server.unicastAndAck, known, if_neg wants] at mem
      obtain ⟨dst, -, same, -⟩ := ackMem mem
      cases same
  · obtain ⟨dst, -, same, -⟩ := ackMem mem'
    cases same

theorem answered {dst : UDPAddr} {msg : Bytes}
    (mem : .respond dst msg ∈ s.unicastAndAck env n src raw flags) :
    src = some dst ∧ ∃ copied : Bool,
      msg = response msgTypeACK (if copied then flags ||| ackFlagUnicastSent else flags) n.startSeq ∧
      (copied = true ↔ ∃ frame peer, .unicast frame peer true ∈ s.unicastAndAck env n src raw flags) ∧
      ((if copied then flags ||| ackFlagUnicastSent else flags) ≠ 0 ∨ s.attempted n src = false) := by
  cases src with
  | none =>
    cases mem
  | some peer =>
    by_cases wants : (s.retransmitUC || n.proxied) = true
    · have list : s.unicastAndAck env n (some peer) raw flags =
          .unicast raw peer (s.retransmit.retransmitUnicast (some peer) env.unicastFails) ::
            s.ack n (some peer) (if s.retransmit.retransmitUnicast (some peer) env.unicastFails then
              flags ||| ackFlagUnicastSent else flags) := by
        simp only [Server.unicastAndAck, if_pos wants]
      rw [list] at mem ⊢
      rcases List.mem_cons.mp mem with never | answer
      · cases never
      · obtain ⟨dst', known, same, sent⟩ := ackMem answer
        cases same
        refine ⟨known, s.retransmit.retransmitUnicast (some peer) env.unicastFails, rfl, ?_, sent⟩
        constructor
        · intro ok
          exact ⟨raw, peer, by simp [ok]⟩
        · rintro ⟨frame, peer', copy⟩
          rcases List.mem_cons.mp copy with same | later
          · exact (Effect.unicast.inj same).2.2.symm
          · obtain ⟨_, -, same, -⟩ := ackMem later
            cases same
    · have list : s.unicastAndAck env n (some peer) raw flags = s.ack n (some peer) flags := by
        simp only [Server.unicastAndAck, if_neg wants]
      rw [list] at mem
      obtain ⟨dst', known, same, sent⟩ := ackMem mem
      cases same
      refine ⟨known, false, rfl, ?_, sent⟩
      constructor
      · intro never
        cases never
      · rintro ⟨frame, peer', copy⟩
        exact absurd (answerUnicast copy).2.2 wants

end Answer

structure Honest (s : Server) (n : Nack) (src : Option UDPAddr) (fx : List Effect)
    (dst : UDPAddr) (msg : Bytes) : Prop where
  toSource : src = some dst
  isAck : byteAt msg 6 = msgTypeACK
  seqNum : uint64 (slice msg 8 16) = n.startSeq
  multicast : byteAt msg 7 &&& ackFlagMulticastSent ≠ 0 ↔
    ∃ raw txID writes, .retransmit raw txID .sent writes ∈ fx
  unicast : byteAt msg 7 &&& ackFlagUnicastSent ≠ 0 ↔ ∃ raw peer, .unicast raw peer true ∈ fx
  bare : byteAt msg 7 = 0 → s.retransmitMC = false ∧ s.retransmitUC = false ∧ n.proxied = false ∧
    (∀ raw txID result writes, .retransmit raw txID result writes ∉ fx) ∧
    ∀ raw peer ok, .unicast raw peer ok ∉ fx
  repaired : ∀ raw txID writes, .retransmit raw txID .suppressed writes ∈ fx →
    ∃ raw peer, .unicast raw peer true ∈ fx
  noError : ∀ raw txID e writes, .retransmit raw txID (.failed e) writes ∉ fx

theorem quietHonest {s : Server} {env : Env s.retransmit} {n : Nack} {src : Option UDPAddr}
    {raw : Bytes} {dst : UDPAddr} {msg : Bytes} (off : s.retransmitMC = false)
    (mem : .respond dst msg ∈ s.unicastAndAck env n src raw 0) :
    Honest s n src (s.unicastAndAck env n src raw 0) dst msg := by
  obtain ⟨toSource, copied, rfl, isCopy, sent⟩ := answered mem
  refine ⟨toSource, by simp, by simp, ?_, ?_, ?_, ?_, ?_⟩
  · simp only [responseFlags]
    constructor
    · intro set
      cases copied <;> exact absurd set (by decide)
    · rintro ⟨_, _, _, never⟩
      exact absurd never answerNoMulticast
  · rw [← isCopy, responseFlags]
    cases copied <;> decide
  · intro zero
    rw [responseFlags] at zero
    have idle : s.attempted n src = false := sent.resolve_left (not_not.mpr zero)
    simp only [Server.attempted, off, toSource, Option.isSome_some, Bool.and_true, Bool.false_or,
      Bool.or_eq_false_iff] at idle
    refine ⟨off, idle.1, idle.2, fun _ _ _ _ => answerNoMulticast, ?_⟩
    intro frame peer ok copy
    have wants := (answerUnicast copy).2.2
    simp [idle.1, idle.2] at wants
  · intro _ _ _ never
    exact absurd never answerNoMulticast
  · intro _ _ _ _
    exact answerNoMulticast

theorem steppedHonest {s : Server} {env : Env s.retransmit} {n : Nack} {src : Option UDPAddr}
    {raw txID : Bytes} {result : Result} {writes : List Write} {dst : UDPAddr} {msg : Bytes}
    {flags : UInt8} (on : s.retransmitMC = true)
    (outcome : result = .sent ∧ flags = ackFlagMulticastSent ∨ result = .suppressed ∧ flags = 0)
    (mem : .respond dst msg ∈ s.unicastAndAck env n src raw flags) :
    Honest s n src (.retransmit raw txID result writes :: s.unicastAndAck env n src raw flags)
      dst msg := by
  obtain ⟨toSource, copied, rfl, isCopy, sent⟩ := answered mem
  have attempted : s.attempted n src = true := by simp [Server.attempted, on]
  -- A send was attempted, so the answer is there only because a flag is set.
  have flagged : (if copied then flags ||| ackFlagUnicastSent else flags) ≠ 0 :=
    sent.resolve_right (by simp [attempted])
  have only : ∀ frame tx res ws, .retransmit frame tx res ws ∈
      .retransmit raw txID result writes :: s.unicastAndAck env n src raw flags → res = result := by
    intro frame tx res ws step
    rcases List.mem_cons.mp step with same | never
    · cases same
      rfl
    · exact absurd never answerNoMulticast
  have copies : ∀ frame peer, .unicast frame peer true ∈
      Effect.retransmit raw txID result writes :: s.unicastAndAck env n src raw flags ↔
        .unicast frame peer true ∈ s.unicastAndAck env n src raw flags := by
    intro frame peer
    simp
  refine ⟨toSource, by simp, by simp, ?_, ?_, ?_, ?_, ?_⟩
  · rw [responseFlags]
    constructor
    · intro set
      rcases outcome with ⟨rfl, -⟩ | ⟨-, rfl⟩
      · exact ⟨raw, txID, writes, List.mem_cons_self⟩
      · cases copied <;> exact absurd set (by decide)
    · rintro ⟨frame, tx, ws, step⟩
      rcases outcome with ⟨-, rfl⟩ | ⟨rfl, -⟩
      · cases copied <;> decide
      · cases only _ _ _ _ step
  · simp only [copies, ← isCopy, responseFlags]
    rcases outcome with ⟨-, rfl⟩ | ⟨-, rfl⟩ <;> cases copied <;> decide
  · intro zero
    rw [responseFlags] at zero
    exact absurd zero flagged
  · intro frame tx ws step
    rcases outcome with ⟨rfl, -⟩ | ⟨-, rfl⟩
    · cases only _ _ _ _ step
    · simp only [copies, ← isCopy]
      cases copied with
      | true => rfl
      | false => exact absurd rfl flagged
  · intro frame tx e ws step
    rcases outcome with ⟨rfl, -⟩ | ⟨rfl, -⟩ <;> cases only _ _ _ _ step

theorem dispatchHonest {lib : FrameLib} {s : Server} {env : Env s.retransmit} {n : Nack}
    {src : Option UDPAddr} {raw : Bytes} {b : Backend} {dst : UDPAddr} {msg : Bytes}
    (mem : .respond dst msg ∈ (s.dispatch lib env n src raw b).1) :
    Honest s n src (s.dispatch lib env n src raw b).1 dst msg := by
  unfold Server.dispatch at mem ⊢
  split at mem
  · rename_i on
    rw [if_pos on]
    dsimp only at mem ⊢
    split at mem
    · rename_i sent
      rw [sent]
      rcases List.mem_cons.mp mem with never | answer
      · cases never
      · exact steppedHonest on (.inl ⟨rfl, rfl⟩) answer
    · rename_i suppressed
      rw [suppressed]
      rcases List.mem_cons.mp mem with never | answer
      · cases never
      · exact steppedHonest on (.inr ⟨rfl, rfl⟩) answer
    · rcases List.mem_cons.mp mem with never | answer
      · cases never
      · cases answer
  · rename_i off
    rw [if_neg off]
    exact quietHonest (by simpa using off) mem

theorem throttleMem {s : Server} {src : Option UDPAddr} {bucket : UInt8} {seqNum : UInt64}
    {e : Effect} (mem : e ∈ s.throttle src bucket seqNum) :
    ∃ dst, src = some dst ∧ e = Server.sendThrottled dst bucket seqNum := by
  unfold Server.throttle at mem
  split at mem
  · rename_i dst
    split at mem
    · exact ⟨dst, rfl, List.mem_singleton.mp mem⟩
    · cases mem
  · cases mem

theorem missedMem {s : Server} {n : Nack} {src : Option UDPAddr} {e : Effect}
    (mem : e ∈ s.missed n src) :
    (∃ dst, src = some dst ∧ e = Server.sendResponse dst msgTypeMISS 0 0) ∨
    (n.proxied = false ∧ e = .enqueue n.hashKey n.startSeq n.subtreeID src) := by
  rcases List.mem_append.mp mem with answer | job
  · unfold Server.miss at answer
    split at answer
    · rename_i dst
      split at answer
      · cases answer
      · exact .inl ⟨dst, rfl, List.mem_singleton.mp answer⟩
    · cases answer
  · split at job
    · rename_i enabled
      simp only [Bool.and_eq_true, Bool.not_eq_true'] at enabled
      exact .inr ⟨enabled.2, List.mem_singleton.mp job⟩
    · cases job

section Process
variable {β : Type} {rt : Runtime β} {lib : FrameLib} {s : Server} {env : Env s.retransmit}
  {datagram : Bytes} {src : Option UDPAddr} {st st' : State β} {fx : List Effect}

inductive Late : Effect → Prop where
  | ack {dst msg} (isAck : byteAt msg 6 = msgTypeACK) : Late (.respond dst msg)
  | multicast {raw txID result writes} : Late (.retransmit raw txID result writes)
  | unicast {raw dst ok} : Late (.unicast raw dst ok)

theorem throttleEarly {bucket : UInt8} {seqNum : UInt64} {e : Effect}
    (mem : e ∈ s.throttle src bucket seqNum) : ¬ Late e := by
  obtain ⟨dst, -, rfl⟩ := throttleMem mem
  intro late
  cases late with
  | ack isAck =>
    rw [responseType] at isAck
    exact absurd isAck (by decide)

theorem servedOfLate (ran : s.processNACK rt lib env datagram src st = some (fx, st'))
    {e : Effect} (mem : e ∈ fx) (late : Late e) :
    ∃ limiter raw last, Admitted rt env datagram src st limiter ∧
      s.found env datagram st = .ok (some raw) ∧
      s.chargeGroup rt lib env src raw limiter = (true, last) ∧
      fx = (s.dispatch lib env (parseNACK datagram) src raw st.backend).1 := by
  cases processed ran with
  | malformed bad => cases mem
  | range valid more => cases mem
  | denied valid single tier =>
    split at mem
    · exact absurd late (throttleEarly mem)
    · cases mem
  | chainDenied valid single tier chain => exact absurd late (throttleEarly mem)
  | cacheError admitted failed => cases mem
  | miss admitted absent =>
    rcases missedMem mem with ⟨dst, -, rfl⟩ | ⟨-, rfl⟩
    · cases late with
      | ack isAck =>
        rw [responseType] at isAck
        exact absurd isAck (by decide)
    · cases late
  | groupDenied admitted hit group => exact absurd late (throttleEarly mem)
  | served admitted hit group => exact ⟨_, _, _, admitted, hit, group, rfl⟩

theorem dispatchMem {n : Nack} {raw : Bytes} {b : Backend} {e : Effect}
    (mem : e ∈ (s.dispatch lib env n src raw b).1) :
    (∃ result writes b', e = .retransmit raw (frameTxID raw) result writes ∧
      s.multicast lib env raw b = (result, writes, b')) ∨
    ∃ flags, e ∈ s.unicastAndAck env n src raw flags := by
  unfold Server.dispatch at mem
  split at mem
  · dsimp only at mem
    split at mem
    · rcases List.mem_cons.mp mem with first | later
      · exact .inl ⟨_, _, _, first, rfl⟩
      · exact .inr ⟨_, later⟩
    · rcases List.mem_cons.mp mem with first | later
      · exact .inl ⟨_, _, _, first, rfl⟩
      · exact .inr ⟨_, later⟩
    · exact .inl ⟨_, _, _, List.mem_singleton.mp mem, rfl⟩
  · exact .inr ⟨_, mem⟩

theorem dispatchMulticast {n : Nack} {raw : Bytes} {b : Backend} {frame txID : Bytes}
    {result : Result} {writes : List Write}
    (mem : .retransmit frame txID result writes ∈ (s.dispatch lib env n src raw b).1) :
    frame = raw ∧ txID = frameTxID raw ∧ ∃ b', s.multicast lib env raw b = (result, writes, b') := by
  rcases dispatchMem mem with ⟨result', writes', b', same, step⟩ | ⟨flags, never⟩
  · cases same
    exact ⟨rfl, rfl, b', step⟩
  · exact absurd never answerNoMulticast

theorem dispatchUnicast {n : Nack} {raw : Bytes} {b : Backend} {frame : Bytes} {dst : UDPAddr}
    {ok : Bool} (mem : .unicast frame dst ok ∈ (s.dispatch lib env n src raw b).1) : frame = raw := by
  rcases dispatchMem mem with ⟨_, _, _, never, -⟩ | ⟨flags, copy⟩
  · cases never
  · exact (answerUnicast copy).1

theorem dispatchNoJob {n : Nack} {raw : Bytes} {b : Backend} {hashKey seq : UInt64}
    {subtree : Bytes} {requester : Option UDPAddr} :
    .enqueue hashKey seq subtree requester ∉ (s.dispatch lib env n src raw b).1 := by
  intro mem
  rcases dispatchMem mem with ⟨_, _, _, never, -⟩ | ⟨flags, answer⟩
  · cases never
  · rcases answerMem answer with ⟨_, -, never⟩ | ⟨flags', ack⟩
    · cases never
    · obtain ⟨_, -, never, -⟩ := ackMem ack
      cases never

end Process

/-- An ACK is written only past every tier with a cached frame in hand, says of
the two sends exactly what they did, and a multicast it reports was written to
the frame's group on every open socket. -/
theorem ackHonest {β : Type} (rt : Runtime β) (lib : FrameLib) (s : Server)
    (env : Env s.retransmit) (datagram : Bytes) (src : Option UDPAddr) (st st' : State β)
    (fx : List Effect) (ran : s.processNACK rt lib env datagram src st = some (fx, st')) :
    (∀ dst msg, .respond dst msg ∈ fx → byteAt msg 6 = msgTypeACK →
      (∃ limiter raw last, Admitted rt env datagram src st limiter ∧
        s.found env datagram st = .ok (some raw) ∧
        s.chargeGroup rt lib env src raw limiter = (true, last)) ∧
      Honest s (parseNACK datagram) src fx dst msg) ∧
    ∀ raw txID writes, .retransmit raw txID .sent writes ∈ fx →
      s.found env datagram st = .ok (some raw) ∧
      ∃ group, s.retransmit.targetGroup lib raw txID = .ok group ∧
        ∀ iface ∈ s.retransmit.sockets, ⟨iface, group, raw, true⟩ ∈ writes := by
  refine ⟨?_, ?_⟩
  · intro dst msg mem isAck
    obtain ⟨limiter, raw, last, admitted, hit, group, rfl⟩ := servedOfLate ran mem (.ack isAck)
    exact ⟨⟨limiter, raw, last, admitted, hit, group⟩, dispatchHonest mem⟩
  · intro raw txID writes mem
    obtain ⟨limiter, cached, last, admitted, hit, group, rfl⟩ := servedOfLate ran mem .multicast
    obtain ⟨rfl, rfl, b', step⟩ := dispatchMulticast mem
    exact ⟨hit, retransmitSent env.visits step⟩

theorem ackHonestBoth :
    ∃ fx st', (endpoint true true).processNACK Runtime.plenty FrameLib.plain (calm true true false)
        (ask 0) (some listener) warm = some (fx, st') ∧
      .respond listener (response msgTypeACK 0x03 9) ∈ fx ∧
      Honest (endpoint true true) (parseNACK (ask 0)) (some listener) fx listener
        (response msgTypeACK 0x03 9) := by
  have computed : ((endpoint true true).processNACK Runtime.plenty FrameLib.plain
      (calm true true false) (ask 0) (some listener) warm).map (·.1) =
      some [.retransmit cachedFrame (List.replicate 32 0) .sent
          [⟨"eth0", ⟨[0xFF], 9000⟩, cachedFrame, true⟩],
        .unicast cachedFrame listener true, .respond listener (response msgTypeACK 0x03 9)] := by rfl
  obtain ⟨⟨fx, st'⟩, ran, rfl⟩ := Option.map_eq_some_iff.mp computed
  refine ⟨_, st', ran, by simp, ?_⟩
  exact ((ackHonest _ _ _ _ _ _ _ _ _ ran).1 listener _ (by simp) (responseType ..)).2

end RetryEndpoint.AckHonesty
