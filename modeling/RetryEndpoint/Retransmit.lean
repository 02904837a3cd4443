import RetryEndpoint.Cache
import RetryEndpoint.Wire

/-! The retransmitter of retransmit.go. What the outside decides in one call is
an argument: the answer of the dedup backend, the order in which the range over
the socket map visits the interfaces, and which writes fail. -/
namespace RetryEndpoint.Retransmit
open BigEndian Wire Cache

abbrev Iface := String

def groupBlockBroadcast : UInt16 := 0xFFFE
def groupSubtreeDataAnnounce : UInt16 := 0xFFFB

structure Retransmitter where
  engine : Engine
  beefEngine : Option PlaneEngine
  egressPort : Nat
  dedupWindow : Int
  dedup : Option Store
  sockets : List Iface
  unicastOpen : Bool

inductive SendError where
  | beefPlaneDisabled | beefTooShort | beefFragmentPlaneDisabled
  | write (iface : Iface)
  deriving DecidableEq, Repr

/- sent is the nil error, suppressed is ErrDedupSuppressed. -/
inductive Result where
  | sent | suppressed | failed (e : SendError)
  deriving DecidableEq, Repr

structure Write where
  iface : Iface
  dst : UDPAddr
  raw : Bytes
  ok : Bool
  deriving DecidableEq, Repr

def Retransmitter.control (r : Retransmitter) (group : UInt16) : UDPAddr :=
  ⟨r.engine.groupAddr group, r.egressPort⟩

def Retransmitter.shardGroup (r : Retransmitter) (txID : Bytes) : UDPAddr :=
  r.engine.addr (r.engine.groupIndex txID) r.egressPort

def Retransmitter.fragmentGroup (r : Retransmitter) (ff : Fragment) : Except SendError UDPAddr :=
  if ff.origFrameVer = frameVerV4 ∨ ff.origFrameVer = frameVerV6 then
    .ok (r.control groupBlockBroadcast)
  else if ff.origFrameVer = frameVerV5 then .ok (r.control groupSubtreeDataAnnounce)
  else if ff.origFrameVer = frameVerV9 then
    match r.beefEngine with
    | none => .error .beefFragmentPlaneDisabled
    -- TopicID rides the SubtreeID slot.
    | some beef => .ok (r.engine.addr (beef.groupIndex ff.subtreeID) r.egressPort)
  else .ok (r.shardGroup ff.txID)

def Retransmitter.targetGroup (lib : FrameLib) (r : Retransmitter) (raw txID : Bytes) :
    Except SendError UDPAddr :=
  if raw.length < 7 then .ok (r.shardGroup txID)
  else
    let ver := byteAt raw 6
    if ver = frameVerV4 ∨ ver = frameVerV6 then .ok (r.control groupBlockBroadcast)
    else if ver = frameVerV5 then .ok (r.control groupSubtreeDataAnnounce)
    else if ver = frameVerV9 then
      match r.beefEngine with
      | none => .error .beefPlaneDisabled
      | some beef =>
        if raw.length < 88 then .error .beefTooShort
        else .ok (r.engine.addr (beef.groupIndex (slice raw 56 88)) r.egressPort)
    else if ver = frameVerV3 then
      match lib.decodeFragment raw with
      | some ff => r.fragmentGroup ff
      | none => .ok (r.shardGroup txID)
    else if ver = frameVerV8 ∧ raw.length ≥ 58 then
      .ok (r.engine.addr (uint16 (slice raw 56 58)).toUInt32 r.egressPort)
    else .ok (r.shardGroup txID)

def buildDedupKey (raw : Bytes) : Option Bytes :=
  if raw.length < 56 then none else some (slice raw 40 56)

def claimValue : Bytes := [0x31]

/- The cross-instance gate: true lets the call go on to the egress. An error of
the backend is logged and comes with set = false, like a key already there. -/
def Retransmitter.gate (r : Retransmitter) (raw : Bytes) (b : Backend) (fault : Fault) (now : Int) :
    Bool × Backend :=
  match r.dedup, buildDedupKey raw with
  | some dedup, some key =>
    let (reply, b) := dedup.setNX b fault now key claimValue r.dedupWindow
    (reply.set, b)
  | _, _ => (true, b)

/- The range over the sockets, up to the first write that fails. -/
def writeLoop (raw : Bytes) (dst : UDPAddr) (fails : Iface → Bool) :
    List Iface → Result × List Write
  | [] => (.sent, [])
  | iface :: rest =>
    if fails iface then (.failed (.write iface), [⟨iface, dst, raw, false⟩])
    else
      let (result, writes) := writeLoop raw dst fails rest
      (result, ⟨iface, dst, raw, true⟩ :: writes)

def Retransmitter.send (lib : FrameLib) (r : Retransmitter) (raw txID : Bytes)
    (order : List Iface) (fails : Iface → Bool) : Result × List Write :=
  match r.targetGroup lib raw txID with
  | .error e => (.failed e, [])
  | .ok dst => writeLoop raw dst fails order

def Retransmitter.retransmit (lib : FrameLib) (r : Retransmitter) (raw txID : Bytes)
    (b : Backend) (fault : Fault) (now : Int) (order : List Iface) (fails : Iface → Bool) :
    Result × List Write × Backend :=
  let (pass, b) := r.gate raw b fault now
  if pass then
    let (result, writes) := r.send lib raw txID order fails
    (result, writes, b)
  else (.suppressed, [], b)

/- nil dst and a closed socket are errors like a failed write: false. -/
def Retransmitter.retransmitUnicast (r : Retransmitter) (dst : Option UDPAddr) (fails : Bool) : Bool :=
  dst.isSome && r.unicastOpen && !fails

theorem writeLoopSent {raw : Bytes} {dst : UDPAddr} {fails : Iface → Bool} {order : List Iface}
    {writes : List Write} (h : writeLoop raw dst fails order = (.sent, writes)) :
    writes = order.map (fun iface => ⟨iface, dst, raw, true⟩) := by
  induction order generalizing writes with
  | nil =>
    simp only [writeLoop, Prod.mk.injEq, true_and] at h
    exact h.symm
  | cons iface rest ih =>
    unfold writeLoop at h
    split at h
    · cases h
    · obtain ⟨result, same⟩ := Prod.mk.injEq .. ▸ h
      have tail : writeLoop raw dst fails rest = (.sent, (writeLoop raw dst fails rest).2) := by
        rw [← result]
      rw [← same, ih tail, List.map_cons]

theorem writeLoopFails {raw : Bytes} {dst : UDPAddr} {fails : Iface → Bool} {order : List Iface} :
    (∃ e, (writeLoop raw dst fails order).1 = .failed e) ↔ ∃ iface ∈ order, fails iface = true := by
  induction order with
  | nil => simp [writeLoop]
  | cons iface rest ih =>
    by_cases broken : fails iface = true
    · simp [writeLoop, broken]
    · simpa [writeLoop, broken] using ih

theorem retransmitFails {lib : FrameLib} {r : Retransmitter} {raw txID : Bytes} {b : Backend}
    {fault : Fault} {now : Int} {order : List Iface} {fails : Iface → Bool} :
    (∃ e, (r.retransmit lib raw txID b fault now order fails).1 = .failed e) ↔
      (r.gate raw b fault now).1 = true ∧
        ((∃ e, r.targetGroup lib raw txID = .error e) ∨ ∃ iface ∈ order, fails iface = true) := by
  unfold Retransmitter.retransmit Retransmitter.send
  cases pass : (r.gate raw b fault now).1 with
  | false => simp [pass]
  | true =>
    cases group : r.targetGroup lib raw txID with
    | error e => simp [pass]
    | ok dst => simpa [pass] using writeLoopFails

theorem retransmitSent {lib : FrameLib} {r : Retransmitter} {raw txID : Bytes} {b b' : Backend}
    {fault : Fault} {now : Int} {order : List Iface} {fails : Iface → Bool} {writes : List Write}
    (visits : order.Perm r.sockets)
    (h : r.retransmit lib raw txID b fault now order fails = (.sent, writes, b')) :
    ∃ dst, r.targetGroup lib raw txID = .ok dst ∧
      ∀ iface ∈ r.sockets, ⟨iface, dst, raw, true⟩ ∈ writes := by
  unfold Retransmitter.retransmit at h
  dsimp only at h
  split at h
  · simp only [Prod.mk.injEq] at h
    obtain ⟨result, same, -⟩ := h
    unfold Retransmitter.send at result same
    split at result
    · cases result
    · rename_i dst found
      refine ⟨dst, found, ?_⟩
      intro iface open'
      simp only [found] at same
      have loop : writeLoop raw dst fails order = (.sent, writes) := Prod.ext result same
      rw [writeLoopSent loop]
      exact List.mem_map.mpr ⟨iface, visits.mem_iff.mpr open', rfl⟩
  · cases h

theorem listedOrder (r : Retransmitter) : r.sockets.Perm r.sockets := List.Perm.refl _

def oneSocket : Retransmitter := ⟨Engine.single, none, 9000, 10, none, ["eth0"], true⟩

theorem oneSocketVisits : ["eth0"].Perm oneSocket.sockets := List.Perm.refl _

end RetryEndpoint.Retransmit
