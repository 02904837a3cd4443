import RetryEndpoint.NackServer
import RetryEndpoint.FrameClass

/-! Where a cached frame is sent and which group it is charged to. The retransmitter
derives the group by a switch over the FrameVer and, inside a fragment, over the one
it was cut from; the server's group tier by the TxID with two exceptions. The shard
engines are another repository's: what their index and address functions promise is
assumed by name. -/
namespace RetryEndpoint.TargetGroup
open BigEndian Wire Cache Ingress FrameClass Retransmit NackServer RateLimit

def groupOf (dst : UDPAddr) : Nat := (uint16 (slice dst.ip 14 16)).toNat

structure Sharded (e : Engine) (bits : Nat) : Prop where
  inRange : ∀ txID, (e.groupIndex txID).toNat < 2 ^ bits
  addr : ∀ idx port, idx.toNat < 65536 → groupOf (e.addr idx port) = idx.toNat
  groupAddr : ∀ group port, groupOf ⟨e.groupAddr group, port⟩ = group.toNat

structure Banded (p : PlaneEngine) (bits : Nat) : Prop where
  inBand : ∀ topic, 0x1000 ≤ (p.groupIndex topic).toNat ∧ (p.groupIndex topic).toNat < 0x1000 + 2 ^ bits

/- The class a frame is routed as: its own, or the one it was cut from. -/
def routedVer (lib : FrameLib) (raw : Bytes) : UInt8 :=
  if byteAt raw 6 = frameVerV3 then match lib.decodeFragment raw with
    | some ff => ff.origFrameVer
    | none => frameVerV3
  else byteAt raw 6

inductive Zone where | broadcast | subtreeData | beef | shard deriving DecidableEq, Repr

def zoneOf (ver : UInt8) : Zone :=
  if ver = frameVerV4 ∨ ver = frameVerV6 then .broadcast
  else if ver = frameVerV5 then .subtreeData
  else if ver = frameVerV9 then .beef
  else .shard

def Zone.Holds (bits beefBits : Nat) (group : Nat) : Zone → Prop
  | .broadcast => group = 0xFFFE
  | .subtreeData => group = 0xFFFB
  | .beef => 0x1000 ≤ group ∧ group < 0x1000 + 2 ^ beefBits
  | .shard => group < 2 ^ bits

theorem Zone.apart {bits beefBits group : Nat} (narrow : bits ≤ 12) (beefNarrow : beefBits ≤ 12)
    {z z' : Zone} (h : z.Holds bits beefBits group) (h' : z'.Holds bits beefBits group) : z = z' := by
  have shards : 2 ^ bits ≤ 2 ^ 12 := Nat.pow_le_pow_right (by decide) narrow
  have band : 2 ^ beefBits ≤ 2 ^ 12 := Nat.pow_le_pow_right (by decide) beefNarrow
  cases z <;> cases z' <;> simp only [Zone.Holds] at h h' <;> first | rfl | omega

structure Wired (r : Retransmitter) (beef : PlaneEngine) (bits beefBits : Nat) : Prop where
  sharded : Sharded r.engine bits
  banded : Banded beef beefBits
  narrow : bits ≤ 12
  beefNarrow : beefBits ≤ 12
  plane : r.beefEngine = some beef

section Route
variable {lib : FrameLib} {raw : Bytes} {f : Flow} {r : Retransmitter} {beef : PlaneEngine}
  {bits beefBits : Nat}

theorem Wired.onShard (h : Wired r beef bits beefBits) (txID : Bytes) :
    groupOf (r.shardGroup txID) = (r.engine.groupIndex txID).toNat := by
  have low := h.sharded.inRange txID
  have shards : 2 ^ bits ≤ 2 ^ 12 := Nat.pow_le_pow_right (by decide) h.narrow
  exact h.sharded.addr _ _ (by omega)

theorem Wired.onBand (h : Wired r beef bits beefBits) (topic : Bytes) :
    groupOf (r.engine.addr (beef.groupIndex topic) r.egressPort) = (beef.groupIndex topic).toNat := by
  have low := (h.banded.inBand topic).2
  have band : 2 ^ beefBits ≤ 2 ^ 12 := Nat.pow_le_pow_right (by decide) h.beefNarrow
  exact h.sharded.addr _ _ (by omega)

theorem Wired.onControl (h : Wired r beef bits beefBits) (group : UInt16) :
    groupOf (r.control group) = group.toNat := h.sharded.groupAddr group r.egressPort

inductive Routed (lib : FrameLib) (engine : Engine) (beef : PlaneEngine) (raw : Bytes) : Nat → Prop where
  | broadcast (other : byteAt raw 6 ≠ frameVerV8) (zone : zoneOf (routedVer lib raw) = .broadcast) :
      Routed lib engine beef raw 0xFFFE
  | subtreeData (other : byteAt raw 6 ≠ frameVerV8) (zone : zoneOf (routedVer lib raw) = .subtreeData) :
      Routed lib engine beef raw 0xFFFB
  | beef (ver : byteAt raw 6 = frameVerV9) :
      Routed lib engine beef raw (beef.groupIndex (slice raw 56 88)).toNat
  | beefFragment {ff} (ver : byteAt raw 6 = frameVerV3) (zone : zoneOf (routedVer lib raw) = .beef)
      (read : lib.decodeFragment raw = some ff) :
      Routed lib engine beef raw (beef.groupIndex ff.subtreeID).toNat
  | bundle (ver : byteAt raw 6 = frameVerV8) :
      Routed lib engine beef raw (uint16 (slice raw 56 58)).toNat
  | shard (other : byteAt raw 6 ≠ frameVerV8) (zone : zoneOf (routedVer lib raw) = .shard) :
      Routed lib engine beef raw (engine.groupIndex (slice raw 8 40)).toNat

theorem storedTxID (keys : lib.ReadsFlowKey) (ok : decodeClass lib raw = some f) :
    frameTxID raw = slice raw 8 40 := by
  have long := (decodeClassKeyAt keys ok).long
  unfold frameTxID
  rw [if_pos (by omega)]

theorem routedWhole (whole : byteAt raw 6 ≠ frameVerV3) : routedVer lib raw = byteAt raw 6 :=
  if_neg whole

theorem zoneWhole {ver : UInt8} (is : byteAt raw 6 = ver) (whole : ver ≠ frameVerV3) :
    zoneOf (routedVer lib raw) = zoneOf ver := by
  subst ver
  rw [routedWhole whole]

theorem routedFragment {ff : Fragment} (ver : byteAt raw 6 = frameVerV3)
    (read : lib.decodeFragment raw = some ff) : routedVer lib raw = ff.origFrameVer := by
  rw [routedVer, if_pos ver, read]

theorem fragmentRouted (h : Wired r beef bits beefBits) {ff : Fragment}
    (ver : byteAt raw 6 = frameVerV3) (read : lib.decodeFragment raw = some ff)
    (txID : ff.txID = slice raw 8 40) :
    ∃ dst, r.fragmentGroup ff = .ok dst ∧ Routed lib r.engine beef raw (groupOf dst) := by
  have other : byteAt raw 6 ≠ frameVerV8 := by rw [ver]; decide
  have routed := routedFragment ver read
  unfold Retransmitter.fragmentGroup
  split
  · rename_i block
    refine ⟨_, rfl, ?_⟩
    rw [h.onControl]
    exact .broadcast other (by rw [routed, zoneOf, if_pos block])
  rename_i noBlock
  split
  · rename_i subtree
    refine ⟨_, rfl, ?_⟩
    rw [h.onControl]
    exact .subtreeData other (by rw [routed, zoneOf, if_neg noBlock, if_pos subtree])
  rename_i noSubtree
  split
  · rename_i topic
    rw [h.plane]
    refine ⟨_, rfl, ?_⟩
    rw [h.onBand]
    exact .beefFragment ver (by rw [routed, zoneOf, if_neg noBlock, if_neg noSubtree, if_pos topic]) read
  · rename_i noTopic
    refine ⟨_, rfl, ?_⟩
    rw [h.onShard, txID]
    exact .shard other (by rw [routed, zoneOf, if_neg noBlock, if_neg noSubtree, if_neg noTopic])

theorem targetRouted (h : Wired r beef bits beefBits) (reads : ReadsClass lib) (keys : lib.ReadsFlowKey)
    (route : ReadsRoute lib) (ok : decodeClass lib raw = some f) :
    ∃ dst, r.targetGroup lib raw (frameTxID raw) = .ok dst ∧ Routed lib r.engine beef raw (groupOf dst) := by
  have long := (decodeClassKeyAt keys ok).long
  have reach : ¬ raw.length < 7 := by omega
  simp only [Retransmitter.targetGroup, if_neg reach]
  cases storedAs reads ok with
  | block ver | anchor ver =>
    refine ⟨r.control groupBlockBroadcast, by simp [ver], ?_⟩
    rw [h.onControl]
    exact .broadcast (by rw [ver]; decide) (zoneWhole ver (by decide))
  | subtreeData ver =>
    refine ⟨r.control groupSubtreeDataAnnounce, by rw [ver]; rfl, ?_⟩
    rw [h.onControl]
    exact .subtreeData (by rw [ver]; decide) (zoneWhole ver (by decide))
  | bundle ver test read =>
    have reach : raw.length ≥ 58 := Nat.le_trans (by decide) (bundleFlowReads read).1
    refine ⟨r.engine.addr (uint16 (slice raw 56 58)).toUInt32 r.egressPort, ?_, ?_⟩
    · rw [ver]
      simp only [reach, and_true]
      rfl
    · rw [h.sharded.addr _ _ (by simpa using (uint16 (slice raw 56 58)).toNat_lt), UInt16.toNat_toUInt32]
      exact .bundle ver
  | beef ver test read =>
    have reach : ¬ raw.length < 88 := Nat.not_lt.mpr (Nat.le_trans (by decide) (route.decodeBEEF raw f read))
    refine ⟨r.engine.addr (beef.groupIndex (slice raw 56 88)) r.egressPort, ?_, ?_⟩
    · rw [ver, h.plane]
      simp only [reach, if_false]
      rfl
    · rw [h.onBand]
      exact .beef ver
  | @fragment ff ver read =>
    obtain ⟨dst, group, routed⟩ := fragmentRouted h ver read (route.decodeFragment raw ff read).2
    refine ⟨dst, ?_, routed⟩
    rw [ver, read]
    exact group
  | base ver =>
    refine ⟨r.shardGroup (slice raw 8 40), ?_, ?_⟩
    · rw [storedTxID keys ok]
      rcases baseVers ver with ver | ver | ver <;> rw [ver] <;> rfl
    · rw [h.onShard]
      rcases baseVers ver with ver | ver | ver <;>
        exact .shard (by rw [ver]; decide) (zoneWhole ver (by decide))

theorem Routed.zone {engine : Engine} {group : Nat} (h : Routed lib engine beef raw group)
    (sharded : Sharded engine bits) (banded : Banded beef beefBits) (other : byteAt raw 6 ≠ frameVerV8) :
    (zoneOf (routedVer lib raw)).Holds bits beefBits group := by
  cases h with
  | broadcast _ zone => rw [zone]; rfl
  | subtreeData _ zone => rw [zone]; rfl
  | beef ver =>
    rw [zoneWhole ver (by decide)]
    exact banded.inBand _
  | beefFragment ver zone read =>
    rw [zone]
    exact banded.inBand _
  | bundle ver => exact absurd ver other
  | shard _ zone =>
    rw [zone]
    exact sharded.inRange _

variable {w : Worker} {src : Label} {b : Backend} {fault : Fault} {now ttl : Int} {key value : Bytes}
  {failed : Bool}

/-- Every frame the ingress stores has a destination. It is in the zone of the
frame's class, a fragment's being that of the frame it was cut from, and in no other
zone; only a bundle goes to whatever group its header carries. -/
theorem staysInZone (h : Wired r beef bits beefBits) (reads : ReadsClass lib) (keys : lib.ReadsFlowKey)
    (route : ReadsRoute lib)
    (mem : .store key value ttl failed ∈ (w.processFrame lib raw src b fault now).1) :
    ∃ dst, r.targetGroup lib raw (frameTxID raw) = .ok dst ∧
      (byteAt raw 6 ≠ frameVerV8 →
        ∀ zone : Zone, zone.Holds bits beefBits (groupOf dst) ↔ zone = zoneOf (routedVer lib raw)) ∧
      (byteAt raw 6 = frameVerV8 → groupOf dst = (uint16 (slice raw 56 58)).toNat) := by
  obtain ⟨-, -, f, decoded, -, -⟩ := processFrameCalls mem
  obtain ⟨dst, group, routed⟩ := targetRouted h reads keys route decoded
  refine ⟨dst, group, ?_, ?_⟩
  · intro other zone
    have own := routed.zone h.sharded h.banded other
    constructor
    · intro reached
      exact Zone.apart h.narrow h.beefNarrow reached own
    · rintro rfl
      exact own
  · intro ver
    generalize groupOf dst = reached at routed
    cases routed with
    | bundle => rfl
    | broadcast other | subtreeData other | shard other => exact absurd ver other
    | beef nine => rw [nine] at ver; exact absurd ver (by decide)
    | beefFragment three => rw [three] at ver; exact absurd ver (by decide)

section Charge
variable {s : Server}

theorem groupIdxStored (reads : ReadsClass lib) (keys : lib.ReadsFlowKey) (route : ReadsRoute lib)
    (engine : Engine) (plane : s.beefEngine = some beef) (ok : decodeClass lib raw = some f) :
    s.groupIdx lib engine raw (frameTxID raw) =
      if byteAt raw 6 = frameVerV8 then (uint16 (slice raw 56 58)).toUInt32
      else if byteAt raw 6 = frameVerV9 then beef.groupIndex (slice raw 56 88)
      else engine.groupIndex (slice raw 8 40) := by
  have long := (decodeClassKeyAt keys ok).long
  simp only [Server.groupIdx, plane, storedTxID keys ok]
  have plain : byteAt raw 6 ≠ frameVerV8 → byteAt raw 6 ≠ frameVerV9 →
      (if lib.isBEEFFrame raw = true ∧ raw.length ≥ 88 then beef.groupIndex (slice raw 56 88)
        else if lib.isBundle raw = true ∧ raw.length ≥ 58 then (uint16 (slice raw 56 58)).toUInt32
        else engine.groupIndex (slice raw 8 40)) = engine.groupIndex (slice raw 8 40) := by
    intro noBundle noBEEF
    rw [if_neg (fun test => noBEEF (reads.isBEEFFrame raw test.1)),
      if_neg (fun test => noBundle (reads.isBundle raw test.1))]
  cases storedAs reads ok with
  | block ver | subtreeData ver | anchor ver | fragment ver =>
    rw [plain (by rw [ver]; decide) (by rw [ver]; decide), ver]
    rfl
  | base ver =>
    rcases baseVers ver with ver | ver | ver <;>
      (rw [plain (by rw [ver]; decide) (by rw [ver]; decide), ver]; rfl)
  | bundle ver test read =>
    have noBEEF : ¬ (lib.isBEEFFrame raw = true ∧ raw.length ≥ 88) := by
      rintro ⟨beef, -⟩
      rw [reads.isBEEFFrame raw beef] at ver
      exact absurd ver (by decide)
    have reach : raw.length ≥ 58 := Nat.le_trans (by decide) (bundleFlowReads read).1
    rw [if_neg noBEEF, if_pos ⟨test, reach⟩, if_pos ver]
  | beef ver test read =>
    have reach : raw.length ≥ 88 := Nat.le_trans (by decide) (route.decodeBEEF raw f read)
    rw [if_pos ⟨test, reach⟩, ver]
    rfl

theorem Routed.charged {engine : Engine} {group : Nat} (routed : Routed lib engine beef raw group)
    (sharded : Sharded engine bits) (banded : Banded beef beefBits) (narrow : bits ≤ 12) :
    (if byteAt raw 6 = frameVerV8 then (uint16 (slice raw 56 58)).toUInt32
      else if byteAt raw 6 = frameVerV9 then beef.groupIndex (slice raw 56 88)
      else engine.groupIndex (slice raw 8 40)).toNat = group ↔
      zoneOf (routedVer lib raw) = .shard ∨ byteAt raw 6 = frameVerV9 := by
  have shards : 2 ^ bits ≤ 2 ^ 12 := Nat.pow_le_pow_right (by decide) narrow
  have low := sharded.inRange (slice raw 8 40)
  have notNine : zoneOf (routedVer lib raw) ≠ .beef → byteAt raw 6 ≠ frameVerV9 := by
    intro zone ver
    exact zone (zoneWhole ver (by decide))
  cases routed with
  | broadcast other zone | subtreeData other zone =>
    rw [if_neg other, if_neg (notNine (by simp [zone]))]
    exact iff_of_false (by omega) (by simp [zone, notNine])
  | beef ver =>
    rw [ver]
    exact iff_of_true rfl (.inr rfl)
  | @beefFragment ff ver zone read =>
    have band := (banded.inBand ff.subtreeID).1
    have noBEEF : byteAt raw 6 ≠ frameVerV9 := by rw [ver]; decide
    rw [if_neg (by rw [ver]; decide), if_neg noBEEF]
    exact iff_of_false (by omega) (by simp [zone, noBEEF])
  | bundle ver =>
    rw [if_pos ver, UInt16.toNat_toUInt32]
    exact iff_of_true rfl (.inl (zoneWhole ver (by decide)))
  | shard other zone =>
    rw [if_neg other, if_neg (notNine (by simp [zone]))]
    exact iff_of_true rfl (.inl zone)

/-- The group tier charges the group the frame is sent to exactly if the frame is
routed as a transaction or a bundle, or is itself a BEEF frame. A block, subtree or
anchor frame, any fragment of one, and a fragment of a BEEF frame are charged to the
shard group of the bytes at the TxID's offset. -/
theorem chargesDestination {β : Type} (engine : s.shardEngine = some s.retransmit.engine)
    (plane : s.beefEngine = some beef) (h : Wired s.retransmit beef bits beefBits) (reads : ReadsClass lib)
    (keys : lib.ReadsFlowKey) (route : ReadsRoute lib)
    (mem : .store key value ttl failed ∈ (w.processFrame lib raw src b fault now).1) :
    ∃ dst charged, s.retransmit.targetGroup lib raw (frameTxID raw) = .ok dst ∧
      (∀ (rt : Runtime β) env peer limiter, s.chargeGroup rt lib env peer raw limiter =
        limiter.allowGroup rt (sourceIP peer) charged env.groupNow) ∧
      (charged.toNat = groupOf dst ↔
        zoneOf (routedVer lib raw) = .shard ∨ byteAt raw 6 = frameVerV9) := by
  obtain ⟨-, -, f, decoded, -, -⟩ := processFrameCalls mem
  obtain ⟨dst, group, routed⟩ := targetRouted h reads keys route decoded
  refine ⟨dst, _, group, fun _ _ _ _ => by rw [Server.chargeGroup, engine], ?_⟩
  rw [groupIdxStored reads keys route s.retransmit.engine plane decoded]
  exact routed.charged h.sharded h.banded h.narrow

end Charge

end Route

def lastBytes (group : UInt16) : Bytes := List.replicate 14 0xFF ++ putUint16 group

def fourShards : Engine :=
  ⟨fun txID => (byteAt txID 0 &&& 3).toUInt32, fun idx port => ⟨lastBytes idx.toUInt16, port⟩, lastBytes⟩

def onePlane : PlaneEngine := ⟨fun _ => 0x1000⟩

def wiredRetransmitter : Retransmitter := { oneSocket with engine := fourShards, beefEngine := some onePlane }

def wiredServer : Server := { endpoint true true with
  retransmit := wiredRetransmitter, shardEngine := some fourShards, beefEngine := some onePlane }

theorem groupOfLastBytes (group : UInt16) (port : Nat) : groupOf ⟨lastBytes group, port⟩ = group.toNat := by
  have tail : slice (List.replicate 14 0xFF ++ putUint16 group) (14 + 0) (14 + 2) =
      slice (putUint16 group) 0 2 := sliceRight List.length_replicate
  rw [groupOf, lastBytes, tail, sliceAll (putUint16Length group), uint16Put]

theorem wiredEngines : Wired wiredRetransmitter onePlane 2 0 := by
  have band : 0x1000 ≤ (0x1000 : UInt32).toNat ∧ (0x1000 : UInt32).toNat < 0x1000 + 2 ^ 0 := by decide
  refine ⟨⟨?_, ?_, ?_⟩, ⟨fun _ => band⟩, by decide, by decide, rfl⟩
  · intro txID
    have masked : (byteAt txID 0 &&& 3).toNat ≤ 3 := by
      rw [UInt8.toNat_and]
      exact Nat.and_le_right
    change (byteAt txID 0 &&& 3).toUInt32.toNat < 4
    rw [UInt8.toNat_toUInt32]
    omega
  · intro idx port small
    change groupOf ⟨lastBytes idx.toUInt16, port⟩ = idx.toNat
    rw [groupOfLastBytes, UInt32.toNat_toUInt16]
    omega
  · exact groupOfLastBytes

def shelf : Worker := ⟨⟨[0x66]⟩, ⟨60, 600, 300, 120, 60⟩, 1, 1⟩

theorem staysInZoneBlock : ∃ dst,
    wiredRetransmitter.targetGroup byVersion (frameOf 3 4 7 9) (frameTxID (frameOf 3 4 7 9)) = .ok dst ∧
      groupOf dst = 0xFFFE := by
  have mem : .store (flowKey 7 9) (frameOf 3 4 7 9) 600 false ∈
      (shelf.processFrame byVersion (frameOf 3 4 7 9) none ExpiringStore.empty .none 0).1 := by decide
  obtain ⟨dst, group, zone, -⟩ :=
    staysInZone wiredEngines byVersionReadsClass byVersionReadsFlowKey byVersionReadsRoute mem
  exact ⟨dst, group, (zone (by decide) .broadcast).mpr (by decide)⟩

/- A bundle whose header carries the index of the block broadcast group is stored
and sent there. -/
theorem bundleLeavesZone :
    (shelf.processFrame byVersion (emptyBundle 0xFFFE 7 9) none ExpiringStore.empty .none 0).1 =
        [.frameReceived, .store (flowKey 7 9) (emptyBundle 0xFFFE 7 9) 60 false, .frameCached none] ∧
      wiredRetransmitter.targetGroup byVersion (emptyBundle 0xFFFE 7 9)
        (frameTxID (emptyBundle 0xFFFE 7 9)) = .ok (wiredRetransmitter.control groupBlockBroadcast) ∧
      groupOf (wiredRetransmitter.control groupBlockBroadcast) = 0xFFFE ∧
      byteAt (emptyBundle 0xFFFE 7 9) 6 = frameVerV8 := by
  refine ⟨by decide, by decide, groupOfLastBytes 0xFFFE 9000, by decide⟩

theorem chargesDestinationPlain : ∃ dst charged,
    wiredServer.retransmit.targetGroup byVersion (frameOf 2 0 7 9) (frameTxID (frameOf 2 0 7 9)) = .ok dst ∧
      (∀ (rt : Runtime Unit) env peer limiter,
        wiredServer.chargeGroup rt byVersion env peer (frameOf 2 0 7 9) limiter =
          limiter.allowGroup rt (sourceIP peer) charged env.groupNow) ∧
      charged.toNat = groupOf dst := by
  have mem : .store (flowKey 7 9) (frameOf 2 0 7 9) 60 false ∈
      (shelf.processFrame byVersion (frameOf 2 0 7 9) none ExpiringStore.empty .none 0).1 := by decide
  obtain ⟨dst, charged, group, tier, agrees⟩ := chargesDestination (β := Unit) (s := wiredServer) rfl rfl
    wiredEngines byVersionReadsClass byVersionReadsFlowKey byVersionReadsRoute mem
  exact ⟨dst, charged, group, tier, agrees.mpr (.inl (by decide))⟩

/- A block frame is sent to the broadcast group and charged to shard group zero. -/
theorem blockChargedElsewhere :
    (shelf.processFrame byVersion (frameOf 4 0 7 9) none ExpiringStore.empty .none 0).1 =
        [.frameReceived, .store (flowKey 7 9) (frameOf 4 0 7 9) 600 false, .frameCached none] ∧
      wiredServer.retransmit.targetGroup byVersion (frameOf 4 0 7 9) (frameTxID (frameOf 4 0 7 9)) =
        .ok (wiredRetransmitter.control groupBlockBroadcast) ∧
      groupOf (wiredRetransmitter.control groupBlockBroadcast) = 0xFFFE ∧
      wiredServer.groupIdx byVersion fourShards (frameOf 4 0 7 9) (frameTxID (frameOf 4 0 7 9)) = 0 := by
  refine ⟨by decide, by decide, groupOfLastBytes 0xFFFE 9000, by decide⟩

end RetryEndpoint.TargetGroup
