import RetryEndpoint.CheckedBytes
import RetryEndpoint.FetchedFrame
import RetryEndpoint.NackServer
import RetryEndpoint.Pipeline

/-! Every slice and index expression on the way of a datagram. The functions below are
those of the other modules with each access written as one that can go wrong; each is
shown to give what the total one gives, for every string of bytes, so none of them
goes wrong. Arrays of a fixed size with constant indices are checked when the program
is compiled and stay as they are. -/
namespace RetryEndpoint.Accesses
open BigEndian CheckedBytes Wire Cache Retransmit RateLimit

section Server
open NackServer

def readNACK (buf : Buffer nackSize) (datagram : Bytes) : Option (Option Bytes) :=
  let n := readLength nackSize datagram
  if n ≠ nackSize then some none
  else do
    let copied ← sub (buf.read datagram).bytes 0 n
    some (some copied)

def validateNACK (datagram : Bytes) : Option (Except NackError Unit) :=
  if datagram.length < nackSize then some (.error (.size datagram.length))
  else do
    let magic ← sub datagram 0 4
    if uint32 magic ≠ magicBSV then some (.error (.magic (uint32 magic)))
    else do
      let kind ← get datagram 6
      some (if kind ≠ msgTypeNACK then .error (.msgType kind) else .ok ())

def parseNACK (datagram : Bytes) : Option Nack := do
  let flags ← get datagram 7
  let hashKey ← sub datagram 8 16
  let startSeq ← sub datagram 16 24
  let endSeq ← sub datagram 24 32
  let subtreeID ← sub datagram 32 64
  some ⟨flags &&& flagProxied != 0, uint64 hashKey, uint64 startSeq, uint64 endSeq, subtreeID⟩

def frameTxID (raw : Bytes) : Option Bytes :=
  if raw.length ≥ 40 then sub raw 8 40 else some (List.replicate 32 0)

def bundleGroup (lib : FrameLib) (raw : Bytes) (idx : UInt32) : Option UInt32 :=
  if lib.isBundle raw ∧ raw.length ≥ 58 then do
    let group ← sub raw 56 58
    some (uint16 group).toUInt32
  else some idx

def groupIdx (lib : FrameLib) (s : Server) (engine : Engine) (raw txID : Bytes) : Option UInt32 := do
  let idx ← bundleGroup lib raw (engine.groupIndex txID)
  match s.beefEngine with
  | some beef =>
    if lib.isBEEFFrame raw ∧ raw.length ≥ 88 then do
      let topicID ← sub raw 56 88
      some (beef.groupIndex topicID)
    else some idx
  | none => some idx

theorem readNACKInside (buf : Buffer nackSize) (datagram : Bytes) :
    readNACK buf datagram = some (NackServer.readNACK datagram) := by
  simp only [readNACK, NackServer.readNACK, readHead, Option.bind_eq_bind, Option.bind_some, readLengthTake]
  split_ifs <;> first | rfl | contradiction

theorem validateNACKInside (datagram : Bytes) :
    validateNACK datagram = some (NackServer.validateNACK datagram) := by
  unfold validateNACK NackServer.validateNACK
  by_cases short : datagram.length < nackSize
  · rw [if_pos short, if_pos short]
  · have long : 64 ≤ datagram.length := Nat.not_lt.mp short
    rw [if_neg short, if_neg short, subInside (by omega) (by omega), getInside (by omega)]
    simp only [Option.bind_eq_bind, Option.bind_some]
    split_ifs <;> rfl

theorem parseNACKInside {datagram : Bytes} (valid : NackServer.validateNACK datagram = .ok ()) :
    parseNACK datagram = some (NackServer.parseNACK datagram) := by
  have long : 64 ≤ datagram.length := by
    unfold NackServer.validateNACK at valid
    split at valid <;> try contradiction
    rename_i long
    exact Nat.not_lt.mp long
  rw [parseNACK, getInside (by omega), subInside (by omega) (by omega), subInside (by omega) (by omega),
    subInside (by omega) (by omega), subInside (by omega) (by omega)]
  rfl

theorem frameTxIDInside (raw : Bytes) : frameTxID raw = some (NackServer.frameTxID raw) := by
  unfold frameTxID NackServer.frameTxID
  split
  · exact subInside (by omega) (by assumption)
  · rfl

theorem groupIdxInside (lib : FrameLib) (s : Server) (engine : Engine) (raw txID : Bytes) :
    groupIdx lib s engine raw txID = some (s.groupIdx lib engine raw txID) := by
  have bundle : bundleGroup lib raw (engine.groupIndex txID) =
      some (if lib.isBundle raw ∧ raw.length ≥ 58 then (uint16 (slice raw 56 58)).toUInt32
        else engine.groupIndex txID) := by
    unfold bundleGroup
    split
    · rename_i carried
      rw [subInside (by omega) carried.2]
      rfl
    · rfl
  unfold groupIdx Server.groupIdx
  rw [bundle]
  cases s.beefEngine with
  | none => rfl
  | some beef =>
    simp only [Option.bind_eq_bind, Option.bind_some]
    split
    · rename_i carried
      rw [subInside (by omega) carried.2]
      rfl
    · rfl

end Server

section Resend

def buildDedupKey (raw : Bytes) : Option (Option Bytes) :=
  if raw.length < 56 then some none
  else do
    let key ← sub raw 40 56
    some (some key)

def targetGroup (lib : FrameLib) (r : Retransmitter) (raw txID : Bytes) : Option (Except SendError UDPAddr) :=
  if raw.length < 7 then some (.ok (r.shardGroup txID))
  else do
    let ver ← get raw 6
    if ver = frameVerV4 ∨ ver = frameVerV6 then some (.ok (r.control groupBlockBroadcast))
    else if ver = frameVerV5 then some (.ok (r.control groupSubtreeDataAnnounce))
    else if ver = frameVerV9 then
      match r.beefEngine with
      | none => some (.error .beefPlaneDisabled)
      | some beef =>
        if raw.length < 88 then some (.error .beefTooShort)
        else do
          let topicID ← sub raw 56 88
          some (.ok (r.engine.addr (beef.groupIndex topicID) r.egressPort))
    else if ver = frameVerV3 then
      some (match lib.decodeFragment raw with
        | some ff => r.fragmentGroup ff
        | none => .ok (r.shardGroup txID))
    else if ver = frameVerV8 ∧ raw.length ≥ 58 then do
      let group ← sub raw 56 58
      some (.ok (r.engine.addr (uint16 group).toUInt32 r.egressPort))
    else some (.ok (r.shardGroup txID))

def gate (r : Retransmitter) (raw : Bytes) (b : Backend) (fault : Fault) (now : Int) :
    Option (Bool × Backend) :=
  match r.dedup with
  | none => some (true, b)
  | some dedup => do
    let dedupKey ← buildDedupKey raw
    match dedupKey with
    | none => some (true, b)
    | some key =>
      let (reply, b) := dedup.setNX b fault now key claimValue r.dedupWindow
      some (reply.set, b)

def retransmit (lib : FrameLib) (r : Retransmitter) (raw txID : Bytes) (b : Backend) (fault : Fault)
    (now : Int) (order : List Iface) (fails : Iface → Bool) : Option (Result × List Write × Backend) := do
  let (pass, b) ← gate r raw b fault now
  if pass then do
    let group ← targetGroup lib r raw txID
    match group with
    | .error e => some (.failed e, [], b)
    | .ok dst =>
      let (result, writes) := writeLoop raw dst fails order
      some (result, writes, b)
  else some (.suppressed, [], b)

theorem buildDedupKeyInside (raw : Bytes) : buildDedupKey raw = some (Retransmit.buildDedupKey raw) := by
  unfold buildDedupKey Retransmit.buildDedupKey
  split
  · rfl
  · rename_i long
    rw [subInside (by omega) (Nat.not_lt.mp long)]
    rfl

theorem targetGroupInside (lib : FrameLib) (r : Retransmitter) (raw txID : Bytes) :
    targetGroup lib r raw txID = some (r.targetGroup lib raw txID) := by
  unfold targetGroup Retransmitter.targetGroup
  by_cases short : raw.length < 7
  · rw [if_pos short, if_pos short]
  rw [if_neg short, if_neg short, getInside (by omega)]
  simp only [Option.bind_eq_bind, Option.bind_some]
  split
  · rfl
  split
  · rfl
  split
  · cases r.beefEngine with
    | none => rfl
    | some beef =>
      dsimp only
      split
      · rfl
      · rename_i long
        rw [subInside (by omega) (Nat.not_lt.mp long), Option.bind_some]
  split
  · rfl
  split
  · rename_i carried
    rw [subInside (by omega) carried.2, Option.bind_some]
  · rfl

theorem gateInside (r : Retransmitter) (raw : Bytes) (b : Backend) (fault : Fault) (now : Int) :
    gate r raw b fault now = some (r.gate raw b fault now) := by
  unfold gate Retransmitter.gate
  cases r.dedup with
  | none => rfl
  | some dedup =>
    rw [buildDedupKeyInside]
    cases Retransmit.buildDedupKey raw with
    | none => rfl
    | some key => rfl

theorem retransmitInside (lib : FrameLib) (r : Retransmitter) (raw txID : Bytes) (b : Backend)
    (fault : Fault) (now : Int) (order : List Iface) (fails : Iface → Bool) :
    retransmit lib r raw txID b fault now order fails =
      some (r.retransmit lib raw txID b fault now order fails) := by
  unfold retransmit Retransmitter.retransmit Retransmitter.send
  rw [gateInside, targetGroupInside]
  cases pass : (r.gate raw b fault now).1 with
  | false => simp [pass]
  | true =>
    cases r.targetGroup lib raw txID with
    | error e => simp [pass]
    | ok dst => simp [pass]

end Resend

section Answer
open NackServer
variable {β : Type} (rt : Runtime β) (lib : FrameLib) (s : Server) (env : Env s.retransmit) (n : Nack)
  (src : Option UDPAddr) (raw : Bytes)

def dispatch (txID : Bytes) (b : Backend) : Option (List Effect × Backend) :=
  if s.retransmitMC then do
    let (result, writes, b) ← retransmit lib s.retransmit raw txID b env.dedupFault env.dedupNow env.order
      env.egressFails
    let sent := .retransmit raw txID result writes
    match result with
    | .sent => some (sent :: s.unicastAndAck env n src raw ackFlagMulticastSent, b)
    | .suppressed => some (sent :: s.unicastAndAck env n src raw 0, b)
    | .failed _ => some ([sent], b)
  else some (s.unicastAndAck env n src raw 0, b)

def chargeGroup (txID : Bytes) (limiter : Limiter β) : Option (Bool × Limiter β) :=
  match s.shardEngine with
  | some engine => do
    let idx ← groupIdx lib s engine raw txID
    some (limiter.allowGroup rt (sourceIP src) idx env.groupNow)
  | none => some (true, limiter)

def serve (st : State β) : Option (List Effect × State β) := do
  let txID ← frameTxID raw
  let (allowed, limiter) ← chargeGroup rt lib s env src raw txID st.limiter
  if allowed then do
    let (fx, b) ← dispatch lib s env n src raw txID st.backend
    some (fx, ⟨limiter, b⟩)
  else some (s.throttle src throttleBucketGroup n.startSeq, { st with limiter := limiter })

def lookup (st : State β) : Option (List Effect × State β) :=
  match s.cache.retrieve st.backend env.cacheFails env.cacheNow (flowKey n.hashKey n.startSeq) with
  | .error _ => some ([], st)
  | .ok none => some (s.missed n src, st)
  | .ok (some raw) => serve rt lib s env n src raw st

/- The inner Option is the limiter's: its log is not one of the strings read here. -/
def processNACK (datagram : Bytes) (st : State β) : Option (Option (List Effect × State β)) := do
  let valid ← validateNACK datagram
  match valid with
  | .error _ => some (some ([], st))
  | .ok _ => do
    let n ← parseNACK datagram
    if n.endSeq ≠ n.startSeq then some (some ([], st))
    else
      match st.limiter.allow rt (sourceIP src) n.hashKey n.startSeq env.ipNow env.seqNow with
      | none => some none
      | some (some level, limiter) =>
        let fx := if level = .sequence then s.throttle src throttleBucketSequence n.startSeq else []
        some (some (fx, { st with limiter := limiter }))
      | some (none, limiter) =>
        match limiter.allowChain rt (sourceIP src) n.hashKey env.chainNow with
        | none => some none
        | some (ok, limiter) =>
          let st := { st with limiter := limiter }
          if ok then (lookup rt lib s env n src st).map some
          else some (some (s.throttle src throttleBucketChain n.startSeq, st))

theorem dispatchInside (b : Backend) :
    dispatch lib s env n src raw (NackServer.frameTxID raw) b = some (s.dispatch lib env n src raw b) := by
  unfold dispatch Server.dispatch Server.multicast
  rw [retransmitInside]
  split
  · obtain ⟨result, writes, b⟩ := s.retransmit.retransmit lib raw (NackServer.frameTxID raw) b env.dedupFault
      env.dedupNow env.order env.egressFails
    cases result <;> rfl
  · rfl

theorem chargeGroupInside (limiter : Limiter β) :
    chargeGroup rt lib s env src raw (NackServer.frameTxID raw) limiter =
      some (s.chargeGroup rt lib env src raw limiter) := by
  unfold chargeGroup Server.chargeGroup
  cases s.shardEngine with
  | none => rfl
  | some engine => simp only [groupIdxInside, Option.bind_eq_bind, Option.bind_some]

theorem serveInside (st : State β) :
    serve rt lib s env n src raw st = some (s.serve rt lib env n src raw st) := by
  unfold serve Server.serve
  rw [frameTxIDInside]
  simp only [Option.bind_eq_bind, Option.bind_some, chargeGroupInside, dispatchInside]
  split <;> rfl

theorem lookupInside (st : State β) :
    lookup rt lib s env n src st = some (s.lookup rt lib env n src st) := by
  unfold lookup Server.lookup
  cases s.cache.retrieve st.backend env.cacheFails env.cacheNow (flowKey n.hashKey n.startSeq) with
  | error e => rfl
  | ok found =>
    cases found with
    | none => rfl
    | some raw => exact serveInside ..

theorem processNACKInside (datagram : Bytes) (st : State β) :
    processNACK rt lib s env src datagram st = some (s.processNACK rt lib env datagram src st) := by
  unfold processNACK Server.processNACK
  rw [validateNACKInside]
  cases valid : NackServer.validateNACK datagram with
  | error e => rfl
  | ok u =>
    rw [parseNACKInside valid]
    simp only [Option.bind_eq_bind, Option.bind_some]
    split
    · rfl
    cases st.limiter.allow rt (sourceIP src) (NackServer.parseNACK datagram).hashKey
        (NackServer.parseNACK datagram).startSeq env.ipNow env.seqNow with
    | none => rfl
    | some first =>
      obtain ⟨denied, limiter⟩ := first
      cases denied with
      | some level => rfl
      | none =>
        simp only [Option.bind_some]
        cases limiter.allowChain rt (sourceIP src) (NackServer.parseNACK datagram).hashKey env.chainNow with
        | none => rfl
        | some second =>
          simp only [Option.bind_some, lookupInside, Option.map_some]
          split <;> rfl

end Answer

section Receive
open Ingress Pipeline
variable (lib : FrameLib) (w : Worker)

def bundleKey (raw : Bytes) : Option (Except BundleError BundleHeader) :=
  if raw.length < bundleHeaderSize then some (.error .tooShort)
  else do
    let magic ← sub raw 0 4
    if uint32 magic ≠ magicBSV then some (.error .badMagic)
    else do
      let ver ← get raw 6
      if ver ≠ frameVerV8 then some (.error .badVer)
      else do
        let sectionLen ← sub raw 62 66
        if raw.length - bundleHeaderSize < (uint32 sectionLen).toNat then some (.error .truncated)
        else do
          let hashKey ← sub raw 40 48
          let seqNum ← sub raw 48 56
          let members ← sub raw 60 62
          some (.ok ⟨uint64 hashKey, uint64 seqNum, (uint16 members).toNat⟩)

theorem bundleKeyInside (raw : Bytes) : bundleKey raw = some (Ingress.bundleKey raw) := by
  unfold bundleKey Ingress.bundleKey
  by_cases short : raw.length < bundleHeaderSize
  · rw [if_pos short, if_pos short]
  · have long : 66 ≤ raw.length := Nat.not_lt.mp short
    rw [if_neg short, if_neg short, subInside (by omega) (by omega), getInside (by omega),
      subInside (by omega) (by omega), subInside (by omega) (by omega), subInside (by omega) (by omega),
      subInside (by omega) (by omega)]
    simp only [Option.bind_eq_bind, Option.bind_some]
    split_ifs <;> rfl

def processFrame (raw : Bytes) (src : Label) (b : Backend) (fault : Fault) (now : Int) :
    Option (List Event × Backend) :=
  if lib.isBlockFrame raw then some (w.processBlockFrame lib raw src b fault now)
  else if lib.isSubtreeDataFrame raw then some (w.processSubtreeDataFrame lib raw src b fault now)
  else if lib.isAnchorFrame raw then some (w.processAnchorFrame lib raw src b fault now)
  else if lib.isBundle raw then do
    let header ← bundleKey raw
    let decoded := header.toOption.map fun h => ⟨h.hashKey, h.seqNum⟩
    some (w.cacheFlow decoded w.ttls.tx raw src b fault now)
  else if lib.isBEEFFrame raw then some (w.processBEEFFrame lib raw src b fault now)
  else if lib.isFragment raw then some (w.processFragmentFrame lib raw src b fault now)
  else some (w.cacheFlow (lib.decode raw) w.ttls.tx raw src b fault now)

theorem processFrameInside (raw : Bytes) (src : Label) (b : Backend) (fault : Fault) (now : Int) :
    processFrame lib w raw src b fault now = some (w.processFrame lib raw src b fault now) := by
  have bundle : (Ingress.bundleKey raw).toOption.map (fun h => (⟨h.hashKey, h.seqNum⟩ : Flow)) =
      bundleFlow raw := by
    unfold bundleFlow
    cases Ingress.bundleKey raw <;> rfl
  unfold processFrame Worker.processFrame Worker.processBundleFrame
  simp only [bundleKeyInside, Option.bind_eq_bind, Option.bind_some, bundle]
  split_ifs <;> rfl

def frameShard (pkt : Bytes) : Option UInt64 :=
  if pkt.length < 56 then some 0
  else do
    let hashKey ← sub pkt 40 48
    let seqNum ← sub pkt 48 56
    let h := uint64 hashKey ^^^ (uint64 seqNum * 0x9E3779B97F4A7C15)
    some (h ^^^ (h >>> 32))

def shardOf (tee : Bool) (pkt : Bytes) : Option UInt64 :=
  if tee ∧ lib.isEncap pkt then
    if pkt.length < teeHeaderSize then some 0
    else do
      let payload ← sub pkt teeHeaderSize pkt.length
      frameShard payload
  else frameShard pkt

theorem shardOfInside (tee : Bool) (pkt : Bytes) : shardOf lib tee pkt = some (Pipeline.shardOf lib tee pkt) := by
  have frame : frameShard (shardBytes lib tee pkt) = some (Pipeline.shardOf lib tee pkt) := by
    unfold frameShard Pipeline.shardOf
    dsimp only
    split
    · rfl
    · rw [subInside (by omega) (by omega), subInside (by omega) (by omega)]
      rfl
  unfold shardBytes at frame
  unfold shardOf
  by_cases envelope : tee ∧ lib.isEncap pkt
  · rw [if_pos envelope] at frame ⊢
    by_cases short : pkt.length < teeHeaderSize
    · -- what is left of such an envelope is too short as well
      have nothing : pkt.drop teeHeaderSize = [] := List.drop_eq_nil_of_le (Nat.le_of_lt short)
      rw [nothing] at frame
      rw [if_pos short]
      exact frame
    · rw [if_neg short, subTail (Nat.not_lt.mp short)]
      exact frame
  · rw [if_neg envelope] at frame ⊢
    exact frame

def queueOf (tee : Bool) (buf : Buffer slotSize) (d : Datagram) : Option Nat := do
  let first ← (List.range (procs w))[0]?
  if procs w > 1 then do
    let pkt ← sub (buf.read d.bytes).bytes 0 (readLength slotSize d.bytes)
    let shard ← shardOf lib tee pkt
    (List.range (procs w))[shard.toNat % procs w]?
  else some first

theorem queueOfInside (tee : Bool) (buf : Buffer slotSize) (d : Datagram) :
    queueOf lib w tee buf d = some (target lib w tee d) := by
  have known : ∀ q < procs w, (List.range (procs w))[q]? = some q := fun q low => by simp [low]
  have low := targetLow lib w tee d
  unfold queueOf
  unfold target at low ⊢
  rw [known 0 (procsPos w)]
  simp only [Option.bind_eq_bind, Option.bind_some]
  split
  · rename_i several
    rw [if_pos several] at low
    rw [readHead, Option.bind_some, shardOfInside, Option.bind_some]
    exact known _ low
  · rfl

/- One round of the dispatch loop, with the batch as the array it is: the slots gone
through, those still to do and those the read did not fill. -/
def round (tee : Bool) (bufs : Nat → Buffer slotSize) (s : State) (before todo rest : List Nat) :
    Option State :=
  if todo = [] then some { s with pc := .top (before ++ rest) }
  else do
    let slot ← (before ++ todo ++ rest)[before.length]?
    let d := (s.mem slot).value
    if slotTrunc d then
      some { s.drop .truncated slot [.frameDropped .truncated] with
        pc := .dispatch (before ++ [slot]) todo.tail rest }
    else if readLength slotSize d.bytes = 0 then
      some { s.drop .empty slot [] with pc := .dispatch (before ++ [slot]) todo.tail rest }
    else do
      let q ← queueOf lib w tee (bufs slot) d
      if (s.queues q).length < per w then
        some { s.push q slot with pc := .refill before todo.tail rest }
      else some { s with pc := .waiting before slot todo.tail rest }

theorem roundInside (tee : Bool) (bufs : Nat → Buffer slotSize) (s : State) (before todo rest : List Nat) :
    round lib w tee bufs s before todo rest = some (Pipeline.dispatch lib w tee s before todo rest) := by
  cases todo with
  | nil => rfl
  | cons slot todo =>
    have here : (before ++ (slot :: todo) ++ rest)[before.length]? = some slot := by simp
    have empty : ∀ d : Datagram, readLength slotSize d.bytes = 0 ↔ slotBytes d = [] := by
      intro d
      rw [← readLengthTake, List.length_eq_zero_iff]
      rfl
    unfold round Pipeline.dispatch
    rw [if_neg (List.cons_ne_nil slot todo), here]
    simp only [Option.bind_eq_bind, Option.bind_some, empty, queueOfInside, List.tail_cons]
    split_ifs <;> rfl

def handle (p : Processor) (buf : Buffer slotSize) (d : Datagram) (b : Backend) (fault : Fault)
    (now : Int) : Option (List Event × Backend × Processor) := do
  let pkt ← sub (buf.read d.bytes).bytes 0 (readLength slotSize d.bytes)
  if p.tee ∧ lib.isEncap pkt then
    match lib.decap pkt with
    | none => some ([.frameDropped .teeDecapError], b, p)
    | some (src, payload) => do
      let (p, label) := p.label src
      let (events, b) ← processFrame lib w payload label b fault now
      some (.teeDatagram .encap :: events, b, p)
  else do
    let (p, label) := p.labelSource d.source
    let (events, b) ← processFrame lib w pkt label b fault now
    some (if p.tee then .teeDatagram .raw :: events else events, b, p)

theorem handleInside (p : Processor) (buf : Buffer slotSize) (d : Datagram) (b : Backend) (fault : Fault)
    (now : Int) :
    handle lib w p buf d b fault now = some (p.handle lib w ⟨slotBytes d, d.source⟩ b fault now) := by
  unfold handle Processor.handle slotBytes
  rw [readHead]
  simp only [Option.bind_eq_bind, Option.bind_some, processFrameInside]
  split
  · cases lib.decap (d.bytes.take slotSize) <;> rfl
  · rfl

end Receive

section Recover
open Proxy

def frameReturn (buf : Bytes) (n : Nat) : Option Bool :=
  if headerSize ≤ n then do
    let magic ← sub buf 0 4
    if uint32 magic = magicBSV then do
      let kind ← get buf 6
      some (kind != msgTypeACK && kind != msgTypeMISS)
    else some false
  else some false

def missReturn (buf : Bytes) (n : Nat) : Option Bool :=
  if n = responseSize ∧ 7 ≤ buf.length then do
    let kind ← get buf 6
    some (kind == msgTypeMISS)
  else some false

def fetchLoop (buf : Buffer fetchBuffer) : List Bytes → Option (Option Bytes)
  | [] => some none
  | arrival :: rest => do
    let n := readLength fetchBuffer arrival
    let frame ← frameReturn (buf.read arrival).bytes n
    if frame then do
      let out ← sub (buf.read arrival).bytes 0 n
      some (some out)
    else do
      let miss ← missReturn (buf.read arrival).bytes n
      if miss then some none else fetchLoop (buf.read arrival) rest

theorem frameReturnInside (buf : Buffer fetchBuffer) (arrival : Bytes) :
    frameReturn (buf.read arrival).bytes (readLength fetchBuffer arrival) =
      some (isFrameReturn (arrival.take fetchBuffer)) := by
  unfold frameReturn isFrameReturn
  rw [readLengthTake]
  by_cases long : headerSize ≤ readLength fetchBuffer arrival
  · have reach : 92 ≤ readLength fetchBuffer arrival := long
    rw [if_pos long, readSlice _ _ (by omega) (by omega), readByte _ _ (by omega)]
    simp only [Option.bind_eq_bind, Option.bind_some, long, decide_true, Bool.true_and]
    split
    · rename_i magic
      simp [magic]
    · rename_i magic
      simp [magic]
  · rw [if_neg long]
    simp [long]

theorem missReturnInside (buf : Buffer fetchBuffer) (arrival : Bytes) :
    missReturn (buf.read arrival).bytes (readLength fetchBuffer arrival) =
      some (isMiss (arrival.take fetchBuffer)) := by
  unfold missReturn isMiss
  rw [readLengthTake, (buf.read arrival).sized]
  by_cases short : readLength fetchBuffer arrival = responseSize
  · have reach : readLength fetchBuffer arrival = 16 := short
    rw [if_pos ⟨short, by decide⟩, readByte _ _ (by omega)]
    simp [short]
  · rw [if_neg fun both => short both.1]
    simp [short]

theorem fetchLoopInside (buf : Buffer fetchBuffer) (arrivals : List Bytes) :
    fetchLoop buf arrivals = some (Proxy.fetchLoop arrivals) := by
  induction arrivals generalizing buf with
  | nil => rfl
  | cons arrival rest ih =>
    unfold fetchLoop Proxy.fetchLoop
    simp only [frameReturnInside, missReturnInside, readHead, ih, Option.bind_eq_bind, Option.bind_some]
    split_ifs <;> rfl

def fetch (upstream : String) (j : Job) (a : Attempt) : Option (List Effect × Option Bytes) :=
  if a.resolves && a.listens && a.sends then do
    let got ← fetchLoop (.make fetchBuffer) a.arrivals
    some ([.nack upstream (buildNACK j)], got)
  else some ([], none)

theorem fetchInside (upstream : String) (j : Job) (a : Attempt) :
    fetch upstream j a = some (Proxy.fetch upstream j a) := by
  unfold fetch Proxy.fetch
  rw [fetchLoopInside]
  split <;> rfl

variable (lib : FrameLib) (cfg : Proxy.Config) (env : Env cfg.retrans) (j : Job)

def storeCall (raw : Bytes) : Option (Option (Bytes × Int)) :=
  if raw.length < headerSize then some none
  else do
    let hashKey ← sub raw 40 48
    let seqNum ← sub raw 48 56
    let ver ← get raw 6
    some (some (hashKey ++ seqNum, ttlFor cfg.ttls ver))

theorem storeCallInside (raw : Bytes) : storeCall cfg raw = some (cfg.storeCall raw) := by
  unfold storeCall Proxy.Config.storeCall
  by_cases short : raw.length < headerSize
  · rw [if_pos short, if_pos short]
  · have long : 92 ≤ raw.length := Nat.not_lt.mp short
    rw [if_neg short, if_neg short, subInside (by omega) (by omega), subInside (by omega) (by omega),
      getInside (by omega)]
    rfl

def store (raw : Bytes) (b : Backend) (fault : Fault) (now : Int) : Option (List Effect × Backend) := do
  let call ← storeCall cfg raw
  match call with
  | none => some ([], b)
  | some (key, ttl) =>
    let (failed, b) := cfg.cache.store b fault now key raw ttl
    some ([.store key raw ttl failed], b)

theorem storeInside (raw : Bytes) (b : Backend) (fault : Fault) (now : Int) :
    store cfg raw b fault now = some (cfg.store raw b fault now) := by
  unfold store Proxy.Config.store
  rw [storeCallInside]
  cases cfg.storeCall raw <;> rfl

def deliver (raw : Bytes) (b : Backend) : Option (List Effect × Backend) := do
  let (stored, b) ← store cfg raw b env.storeFault env.storeNow
  let (multicast, b) ← if cfg.multicast then do
      let txID ← sub raw 8 40
      let (result, writes, b) ← retransmit lib cfg.retrans raw txID b env.dedupFault env.dedupNow env.order
        env.egressFails
      some ([Effect.retransmit raw txID result writes], b)
    else some ([], b)
  let unicast := match j.requester with
    | some peer => if cfg.unicast then
        [Effect.unicast raw peer (cfg.retrans.retransmitUnicast (some peer) env.unicastFails)] else []
    | none => []
  some (stored ++ multicast ++ unicast, b)

theorem deliverInside {raw : Bytes} (long : headerSize ≤ raw.length) (b : Backend) :
    deliver lib cfg env j raw b = some (cfg.deliver lib env j raw b) := by
  have reach : 92 ≤ raw.length := long
  unfold deliver Proxy.Config.deliver Proxy.Config.resend Proxy.Config.handBack
  rw [storeInside, subInside (by omega) (by omega)]
  simp only [Option.bind_eq_bind, Option.bind_some, retransmitInside]
  split <;> rfl

def attempts (b : Backend) : Nat → Nat → Option (List Effect × Backend)
  | _, 0 => some ([], b)
  | i, left + 1 =>
    if env.cancelled i then some ([], b)
    else do
      let upstream ← cfg.upstreams[i]?
      let (asked, got) ← fetch upstream j (env.attempt i)
      match got with
      | some raw => do
        let (fx, b) ← deliver lib cfg env j raw b
        some (asked ++ fx, b)
      | none => do
        let (fx, b) ← attempts b (i + 1) left
        some (asked ++ fx, b)

theorem attemptsInside (b : Backend) {i left : Nat} (enough : i + left ≤ cfg.upstreams.length) :
    attempts lib cfg env j b i left =
      some (cfg.attempts lib env j b i ((cfg.upstreams.drop i).take left)) := by
  induction left generalizing i with
  | zero => rfl
  | succ left ih =>
    have low : i < cfg.upstreams.length := by omega
    rw [List.drop_eq_getElem_cons low, List.take_succ_cons]
    unfold attempts Proxy.Config.attempts
    rw [List.getElem?_eq_getElem low]
    split
    · rfl
    simp only [Option.bind_eq_bind, Option.bind_some, fetchInside]
    cases got : (Proxy.fetch cfg.upstreams[i] j (env.attempt i)).2 with
    | none =>
      dsimp only
      rw [ih (by omega)]
      rfl
    | some raw =>
      have long := FetchedFrame.returnedLong ((FetchedFrame.fetchReturned ..).1.symm.trans got)
      dsimp only
      rw [deliverInside lib cfg env j long]
      rfl

def recover (c : Client) (env : Env c.cfg.retrans) (b : Backend) : Option (List Effect × Backend) :=
  let (go, b) := c.cfg.claim j b env.claimFault env.claimNow
  if go then attempts lib c.cfg env j b 0 c.cfg.maxEndpoints.toNat else some ([], b)

theorem recoverInside (c : Client) (env : Env c.cfg.retrans) (b : Backend) :
    recover lib j c env b = some (c.recover lib j env b) := by
  have range := c.inRange
  unfold recover Client.recover
  dsimp only
  split
  · rw [attemptsInside lib c.cfg env j _ (by omega), List.drop_zero]
  · rfl

end Recover

/- On each way in, from the read on, every access is inside its bounds: the NACK
socket with whatever frame the cache then serves, the receive loop and the processors
of the multicast and the tee socket, and the socket of a recovery. -/
structure Inside (lib : FrameLib) : Prop where
  nackRead : ∀ buf datagram, readNACK buf datagram = some (NackServer.readNACK datagram)
  nack : ∀ (β : Type) (rt : Runtime β) server env src datagram st,
    processNACK rt lib server env src datagram st = some (server.processNACK rt lib env datagram src st)
  receive : ∀ w tee bufs s before todo rest,
    round lib w tee bufs s before todo rest = some (Pipeline.dispatch lib w tee s before todo rest)
  handle : ∀ w (p : Ingress.Processor) buf d b fault now,
    handle lib w p buf d b fault now = some (p.handle lib w ⟨Pipeline.slotBytes d, d.source⟩ b fault now)
  recover : ∀ j (c : Proxy.Client) env b, recover lib j c env b = some (c.recover lib j env b)

/-- No string of bytes, on any socket or out of the cache, drives an access out of its
bounds. -/
theorem accessesInside (lib : FrameLib) : Inside lib where
  nackRead := readNACKInside
  nack _ rt server env src datagram st := processNACKInside rt lib server env src datagram st
  receive := roundInside lib
  handle := handleInside lib
  recover j c env b := recoverInside lib j c env b

end RetryEndpoint.Accesses
