import RetryEndpoint.Pipeline
import RetryEndpoint.RecoveredCache
import RetryEndpoint.UnicastReturn

/-! One recovery across two domains: the NACK a client builds, the server that
answers it from its cache, and the client's read loop on whatever order the answers
come back in. -/
namespace RetryEndpoint.CrossDomain
open BigEndian Wire Cache Ingress FrameClass Retransmit RateLimit NackServer RecoveredCache
open Proxy (Job buildNACK fetch fetchLoop isFrameReturn isMiss fetchBuffer)

section Request
variable {j : Job}

theorem buildNACKLength (sized : j.subtree.length = 32) : (buildNACK j).length = nackSize := by
  simp [buildNACK, nack, preambleBytes, sized, nackSize]

theorem buildNACKHead : slice (buildNACK j) 0 4 = putUint32 magicBSV := by
  rw [buildNACK, nackFields]
  exact sliceField (i := 0) rfl rfl (by simp)

theorem buildNACKParsed (sized : j.subtree.length = 32) :
    parseNACK (buildNACK j) = ⟨true, j.hashKey, j.seq, j.seq, j.subtree⟩ := by
  rw [buildNACK, nackFields, parseNACK]
  rw [byteField (i := 3) rfl (by simp), sliceField (i := 4) rfl (by simp) (by simp),
    sliceField (i := 5) rfl (by simp) (by simp), sliceField (i := 6) rfl (by simp) (by simp),
    sliceField (i := 7) rfl (by simp) (by simp [sized])]
  simp only [uint64Put]
  rfl

theorem buildNACKValid (sized : j.subtree.length = 32) : validateNACK (buildNACK j) = .ok () := by
  have kind : byteAt (buildNACK j) 6 = msgTypeNACK := by
    rw [buildNACK, nack, preambleBytes]
    rfl
  have magic : uint32 (putUint32 magicBSV) = magicBSV := by decide
  simp [validateNACK, buildNACKLength sized, buildNACKHead, magic, kind]

theorem buildNACKRead (sized : j.subtree.length = 32) : readNACK (buildNACK j) = some (buildNACK j) := by
  have whole : (buildNACK j).take nackSize = buildNACK j :=
    List.take_of_length_le (Nat.le_of_eq (buildNACKLength sized))
  simp [readNACK, whole, buildNACKLength sized]

end Request

section Answer
variable {lib : FrameLib} {s : Server} {env : Env s.retransmit} {n : Nack} {client : UDPAddr}
  {raw : Bytes} {b : Backend}

theorem copiedAnswers {flags : UInt8} (proxied : n.proxied = true)
    (sends : s.retransmit.retransmitUnicast (some client) env.unicastFails = true) :
    .unicast raw client true ∈ s.unicastAndAck env n (some client) raw flags ∧
    ∀ dst msg, .respond dst msg ∈ s.unicastAndAck env n (some client) raw flags →
      dst = client ∧ ∃ flags', msg = response msgTypeACK flags' n.startSeq := by
  constructor
  · simp [Server.unicastAndAck, proxied, sends]
  · intro dst msg mem
    obtain ⟨same, copied, answer, -⟩ := AckHonesty.answered mem
    exact ⟨(Option.some.inj same).symm, _, answer⟩

theorem dispatchAnswers (proxied : n.proxied = true)
    (sends : s.retransmit.retransmitUnicast (some client) env.unicastFails = true)
    (multicast : s.retransmitMC = true → (s.multicast lib env raw b).1 = .sent ∨
      (s.multicast lib env raw b).1 = .suppressed) :
    .unicast raw client true ∈ (s.dispatch lib env n (some client) raw b).1 ∧
    ∀ dst msg, .respond dst msg ∈ (s.dispatch lib env n (some client) raw b).1 →
      dst = client ∧ ∃ flags, msg = response msgTypeACK flags n.startSeq := by
  have after : ∀ (e : Effect) flags, (∀ dst msg, e ≠ .respond dst msg) →
      .unicast raw client true ∈ e :: s.unicastAndAck env n (some client) raw flags ∧
      ∀ dst msg, .respond dst msg ∈ e :: s.unicastAndAck env n (some client) raw flags →
        dst = client ∧ ∃ flags', msg = response msgTypeACK flags' n.startSeq := by
    intro e flags other
    obtain ⟨copy, answers⟩ := copiedAnswers proxied sends
    refine ⟨List.mem_cons_of_mem _ copy, ?_⟩
    intro dst msg mem
    rcases List.mem_cons.mp mem with same | later
    · exact absurd same.symm (other dst msg)
    · exact answers dst msg later
  unfold Server.dispatch
  split
  · rename_i on
    dsimp only
    rcases multicast on with result | result <;> rw [result] <;> exact after _ _ (by simp)
  · exact copiedAnswers proxied sends

end Answer

section Return
variable {lib : FrameLib} {w : Worker} {p : Processor} {d : Datagram} {b : Backend} {fault : Fault}
  {now ttl : Int} {key f : Bytes} {failed : Bool}

theorem handledFrame (decaps : lib.DecapsPayload)
    (mem : .store key f ttl failed ∈ (p.handle lib w ⟨Pipeline.slotBytes d, d.source⟩ b fault now).1) :
    f.length ≤ Pipeline.slotSize ∧ ∃ flow, decodeClass lib f = some flow ∧
      key = flowKey flow.hashKey flow.seqNum := by
  have slot : (Pipeline.slotBytes d).length ≤ Pipeline.slotSize := List.length_take_le ..
  unfold Processor.handle at mem
  split at mem
  · split at mem
    · simp at mem
    · rename_i source payload opened
      have inner := (List.mem_cons.mp mem).resolve_left (by simp)
      obtain ⟨rfl, -, flow, decoded, -, same⟩ := processFrameCalls inner
      obtain ⟨-, cut⟩ := decaps _ _ _ opened
      refine ⟨?_, flow, decoded, same⟩
      rw [cut, List.length_drop]
      exact Nat.le_trans (Nat.sub_le ..) slot
  · have inner : .store key f ttl failed ∈ (w.processFrame lib (Pipeline.slotBytes d)
        (p.labelSource d.source).2 b fault now).1 := by
      dsimp only at mem
      split at mem
      · exact (List.mem_cons.mp mem).resolve_left (by simp)
      · exact mem
    obtain ⟨rfl, -, flow, decoded, -, same⟩ := processFrameCalls inner
    exact ⟨slot, flow, decoded, same⟩

theorem ackSkipped (flags : UInt8) (seqNum : UInt64) :
    (response msgTypeACK flags seqNum).length < headerSize ∧
      isMiss (response msgTypeACK flags seqNum) = false := by
  constructor
  · simp [response, preambleBytes, headerSize]
  · simp [isMiss, msgTypeACK, msgTypeMISS]

theorem fetchAnyOrder {arrivals : List Bytes} (fits : f.length ≤ fetchBuffer) (frame : isFrameReturn f = true)
    (comes : f ∈ arrivals)
    (others : ∀ d ∈ arrivals, d = f ∨ d.length < headerSize ∧ isMiss d = false) :
    fetchLoop arrivals = some f := by
  have whole : f.take fetchBuffer = f := List.take_of_length_le fits
  induction arrivals with
  | nil => cases comes
  | cons d rest ih =>
    rcases others d List.mem_cons_self with rfl | ⟨short, noMiss⟩
    · simp only [fetchLoop, whole, frame, if_true]
    · have cut : d.take fetchBuffer = d :=
        List.take_of_length_le (Nat.le_trans (Nat.le_of_lt short) (by decide))
      have noFrame : isFrameReturn d = false := by
        simp [isFrameReturn, Nat.not_le.mpr short]
      have later : f ∈ rest := by
        refine (List.mem_cons.mp comes).resolve_left ?_
        rintro rfl
        rw [noFrame] at frame
        cases frame
      simp only [fetchLoop, cut, noFrame, noMiss, Bool.false_eq_true, if_false]
      exact ih later (fun x mem => others x (List.mem_cons_of_mem _ mem))

variable {β : Type}

/-- For every frame an upstream's ingress stored under the job's key: the job's NACK
is read as exactly that job, proxied; and a server that holds the frame, admits the
request and does not break in the multicast step sends the frame back and at most an
ACK with it, from which the client's fetch returns the frame and its store caches it
under the job's key, in whatever order they arrive and whatever short datagram other
than a MISS arrives with them: one call is made, and where the backend answers it the
frame is found under the key until its lifetime is over. -/
theorem crossDomainRecovery (reads : ReadsClass lib) (checks : ChecksMagic lib) (keys : lib.ReadsFlowKey)
    (decaps : lib.DecapsPayload) (j : Job) (sized : j.subtree.length = 32)
    (stored : .store (flowKey j.hashKey j.seq) f ttl failed ∈
      (p.handle lib w ⟨Pipeline.slotBytes d, d.source⟩ b fault now).1)
    (long : headerSize ≤ f.length) :
    (readNACK (buildNACK j) = some (buildNACK j) ∧ validateNACK (buildNACK j) = .ok () ∧
      parseNACK (buildNACK j) = ⟨true, j.hashKey, j.seq, j.seq, j.subtree⟩) ∧
    ∀ (rt : Runtime β) (s : Server) (env : Env s.retransmit) (client : UDPAddr) (st : State β)
      (between limiter last : Limiter β),
      s.cache.retrieve st.backend env.cacheFails env.cacheNow (flowKey j.hashKey j.seq) = .ok (some f) →
      st.limiter.allow rt client.ip j.hashKey j.seq env.ipNow env.seqNow = some (none, between) →
      between.allowChain rt client.ip j.hashKey env.chainNow = some (true, limiter) →
      s.chargeGroup rt lib env (some client) f limiter = (true, last) →
      (s.retransmitMC = true → (s.multicast lib env f st.backend).1 = .sent ∨
        (s.multicast lib env f st.backend).1 = .suppressed) →
      s.retransmit.retransmitUnicast (some client) env.unicastFails = true →
      ∃ fx st', s.processNACK rt lib env (buildNACK j) (some client) st = some (fx, st') ∧
        .unicast f client true ∈ fx ∧
        (∀ dst msg, .respond dst msg ∈ fx → dst = client ∧ ∃ flags, msg = response msgTypeACK flags j.seq) ∧
        ∀ arrivals, f ∈ arrivals →
          (∀ x ∈ arrivals, x = f ∨ .respond client x ∈ fx ∨ x.length < headerSize ∧ isMiss x = false) →
          (∀ upstream, (fetch upstream j (sentOut arrivals)).2 = some f) ∧
          ∀ (cfg : Proxy.Config) b' now',
            (∀ fault', ∃ failed', (cfg.store f b' fault' now').1 =
              [.store (flowKey j.hashKey j.seq) f (Proxy.ttlFor cfg.ttls (byteAt f 6)) failed']) ∧
            (cfg.store f b' .none now').1 =
              [.store (flowKey j.hashKey j.seq) f (Proxy.ttlFor cfg.ttls (byteAt f 6)) false] ∧
            ∀ later, later < now' + Proxy.ttlFor cfg.ttls (byteAt f 6) →
              cfg.cache.retrieve (cfg.store f b' .none now').2 false later (flowKey j.hashKey j.seq) =
                .ok (some f) := by
  have parsed := buildNACKParsed sized
  have valid := buildNACKValid sized
  obtain ⟨fits, flow, decoded, same⟩ := handledFrame decaps stored
  have key : keyBytes f = flowKey j.hashKey j.seq :=
    (decodeClassKeyAt keys decoded).flowKey.symm.trans same.symm
  refine ⟨⟨buildNACKRead sized, valid, parsed⟩, ?_⟩
  intro rt s env client st between limiter last hit tiers chain group multicast sends
  have admitted : Admitted rt env (buildNACK j) (some client) st limiter := by
    refine ⟨valid, ?_, between, ?_⟩
    · rw [parsed]
    · rw [parsed]
      exact ⟨tiers, chain⟩
  have found : s.found env (buildNACK j) st = .ok (some f) := by
    rw [Server.found, parsed]
    exact hit
  have proxied : (parseNACK (buildNACK j)).proxied = true := by rw [parsed]
  obtain ⟨copy, answers⟩ := dispatchAnswers proxied sends multicast
  rw [parsed] at copy answers
  refine ⟨_, _, servedReturns admitted found group, parsed ▸ copy, ?_, ?_⟩
  · rw [parsed]
    exact answers
  · intro arrivals comes others
    refine ⟨?_, ?_⟩
    · intro upstream
      refine fetchAnyOrder fits (frameReturns reads checks decoded long) comes ?_
      intro x mem
      rcases others x mem with same | answer | junk
      · exact .inl same
      · rw [parsed] at answer
        obtain ⟨-, flags, rfl⟩ := answers client x answer
        exact .inr (ackSkipped flags j.seq)
      · exact .inr junk
    · intro cfg b' now'
      rw [← key]
      exact ⟨fun fault' => storeCalls cfg long b' fault' now', storeKeeps cfg long b' now'⟩

end Return

def upstreamFrame : Bytes := frameOf 2 0 7 9

def holder : State Unit :=
  ⟨RateLimit.new Runtime.plenty ⟨1, 1, 0, 0, 0, 0, 3, 0, 0, 0⟩,
    ExpiringStore.put ExpiringStore.empty 0 ([0x66] ++ flowKey 7 9) upstreamFrame 60⟩

theorem crossDomainRecoveryLate : ∃ fx st',
    (endpoint true false).processNACK Runtime.plenty byVersion (calm true false false) (buildNACK gapJob)
        (some listener) holder = some (fx, st') ∧
      (fetch "peer:9300" gapJob (sentOut [response msgTypeACK 3 9, [], upstreamFrame])).2 =
        some upstreamFrame := by
  have stored : .store (flowKey 7 9) upstreamFrame 60 false ∈ ((Processor.new false).handle byVersion keeper
      ⟨Pipeline.slotBytes ⟨upstreamFrame, none⟩, none⟩ ExpiringStore.empty .none 0).1 := by decide
  have decaps : byVersion.DecapsPayload := plainDecapsPayload
  obtain ⟨-, serves⟩ := crossDomainRecovery (β := Unit) byVersionReadsClass byVersionChecksMagic
    byVersionReadsFlowKey decaps gapJob (by decide) stored (by decide)
  obtain ⟨fx, st', ran, -, answers, recovers⟩ := serves Runtime.plenty (endpoint true false)
    (calm true false false) listener holder _ _ _ (by rfl) (by rfl) (by rfl) (by rfl) (fun _ => .inl (by rfl))
    (by rfl)
  refine ⟨fx, st', ran, (recovers _ (by decide) ?_).1 "peer:9300"⟩
  intro x mem
  simp only [List.mem_cons, List.not_mem_nil, or_false] at mem
  rcases mem with rfl | rfl | rfl
  · exact .inr (.inr ⟨by decide, by decide⟩)
  · exact .inr (.inr ⟨by decide, by decide⟩)
  · exact .inl rfl

end RetryEndpoint.CrossDomain
