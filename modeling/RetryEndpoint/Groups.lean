import RetryEndpoint.RoundRobin
import RetryEndpoint.TargetGroup

/-! The groups an endpoint joins and how they are split over its ingress workers:
buildGroups of main.go and Partition of ingress.go. The shard, BEEF and control
indices lie in zones of their own, so no address is listed twice, and dealing the
list out in turn gives every group to one worker. -/
namespace RetryEndpoint.Groups
open BigEndian Wire Retransmit TargetGroup

structure Config where
  shardBits : Nat
  beefShardBits : Nat
  subtreeDataEnabled : Bool
  beefEnabled : Bool
  listenPort : Nat
  narrow : 1 ≤ shardBits ∧ shardBits ≤ 12
  beefNarrow : beefShardBits ≤ 12

def Config.numGroups (cfg : Config) : UInt32 := UInt32.ofNat (2 ^ cfg.shardBits)

def buildGroups (cfg : Config) (engine : Engine) : List UDPAddr :=
  let groups := (List.range cfg.numGroups.toNat).map fun i => engine.addr (UInt32.ofNat i) cfg.listenPort
  let groups := groups ++ [⟨engine.groupAddr groupBlockBroadcast, cfg.listenPort⟩]
  let groups := if cfg.subtreeDataEnabled then
    groups ++ [⟨engine.groupAddr groupSubtreeDataAnnounce, cfg.listenPort⟩] else groups
  if cfg.beefEnabled then
    groups ++ (List.range (2 ^ cfg.beefShardBits)).map fun i =>
      engine.addr (0x1000 + UInt32.ofNat i) cfg.listenPort
  else groups

def partition (groups : List UDPAddr) (n : Int) : List (List UDPAddr) :=
  let n : Int := if n > groups.length then groups.length else n
  if n < 1 then [groups] else RoundRobin.deal n.toNat groups

/- Engine.Addr and shard.GroupAddr keep 16-bit group indices apart. -/
structure Spread (e : Engine) : Prop where
  addr : ∀ i j port, i.toNat < 65536 → j.toNat < 65536 → e.addr i port = e.addr j port → i = j
  groupAddr : ∀ g h, e.groupAddr g = e.groupAddr h → g = h
  apart : ∀ i g port, i.toNat < 65536 → e.addr i port = ⟨e.groupAddr g, port⟩ → i.toNat = g.toNat

inductive Zone where | data (idx : UInt32) | control (group : UInt16) deriving DecidableEq, Repr

def Zone.index : Zone → Nat
  | .data idx => idx.toNat
  | .control group => group.toNat

def Zone.addr (e : Engine) (port : Nat) : Zone → UDPAddr
  | .data idx => e.addr idx port
  | .control group => ⟨e.groupAddr group, port⟩

def Apart (z z' : Zone) : Prop := z.index ≠ z'.index

section Zones
variable (cfg : Config)

def shards : List Zone := (List.range cfg.numGroups.toNat).map fun i => .data (UInt32.ofNat i)

def controls : List Zone :=
  .control groupBlockBroadcast ::
    if cfg.subtreeDataEnabled then [.control groupSubtreeDataAnnounce] else []

def band : List Zone :=
  if cfg.beefEnabled then
    (List.range (2 ^ cfg.beefShardBits)).map fun i => .data (0x1000 + UInt32.ofNat i)
  else []

def zones : List Zone := shards cfg ++ controls cfg ++ band cfg

theorem buildGroupsZones (engine : Engine) :
    buildGroups cfg engine = (zones cfg).map (Zone.addr engine cfg.listenPort) := by
  unfold buildGroups zones shards controls band
  cases cfg.subtreeDataEnabled <;> cases cfg.beefEnabled <;>
    simp [Zone.addr, Function.comp_def]

theorem numGroupsNat : cfg.numGroups.toNat = 2 ^ cfg.shardBits ∧ 2 ^ cfg.shardBits ≤ 4096 := by
  have small : 2 ^ cfg.shardBits ≤ 2 ^ 12 := Nat.pow_le_pow_right (by decide) cfg.narrow.2
  refine ⟨?_, small⟩
  rw [Config.numGroups, UInt32.toNat_ofNat', Nat.mod_eq_of_lt (by omega)]

theorem bandWidth : 2 ^ cfg.beefShardBits ≤ 4096 :=
  Nat.pow_le_pow_right (n := 2) (by decide) cfg.beefNarrow

variable {cfg}

theorem shardIndex {i : Nat} (small : i < 4096) : (UInt32.ofNat i).toNat = i := by
  rw [UInt32.toNat_ofNat', Nat.mod_eq_of_lt (by omega)]

theorem bandIndex {i : Nat} (small : i < 4096) : (0x1000 + UInt32.ofNat i).toNat = 0x1000 + i := by
  have base : (0x1000 : UInt32).toNat = 0x1000 := rfl
  rw [UInt32.toNat_add, base, shardIndex small, Nat.mod_eq_of_lt (by omega)]

theorem shardBelow {z : Zone} (mem : z ∈ shards cfg) : z.index < 4096 := by
  obtain ⟨i, inside, rfl⟩ := List.mem_map.mp mem
  have bound := numGroupsNat cfg
  have small : i < 4096 := by
    have := List.mem_range.mp inside
    omega
  rw [Zone.index, shardIndex small]
  exact small

theorem controlAbove {z : Zone} (mem : z ∈ controls cfg) : 0xFFFB ≤ z.index ∧ z.index < 65536 := by
  unfold controls at mem
  rcases List.mem_cons.mp mem with rfl | subtree
  · decide
  · split at subtree
    · rw [List.mem_singleton.mp subtree]
      decide
    · cases subtree

theorem bandBetween {z : Zone} (mem : z ∈ band cfg) : 0x1000 ≤ z.index ∧ z.index < 0x2000 := by
  unfold band at mem
  split at mem
  · obtain ⟨i, inside, rfl⟩ := List.mem_map.mp mem
    have width := bandWidth cfg
    have small : i < 4096 := by
      have := List.mem_range.mp inside
      omega
    rw [Zone.index, bandIndex small]
    omega
  · cases mem

theorem shardsApart : (shards cfg).Pairwise Apart := by
  unfold shards
  rw [List.pairwise_map]
  refine List.pairwise_lt_range.imp_of_mem ?_
  intro i j _ inside less
  have bound := numGroupsNat cfg
  have small := List.mem_range.mp inside
  rw [Apart, Zone.index, Zone.index, shardIndex (by omega), shardIndex (by omega)]
  omega

theorem controlsApart : (controls cfg).Pairwise Apart := by
  unfold controls
  split
  · refine List.pairwise_pair.mpr ?_
    unfold Apart
    decide
  · exact List.pairwise_singleton ..

theorem bandApart : (band cfg).Pairwise Apart := by
  unfold band
  split
  · rw [List.pairwise_map]
    refine List.pairwise_lt_range.imp_of_mem ?_
    intro i j _ inside less
    have width := bandWidth cfg
    have small := List.mem_range.mp inside
    rw [Apart, Zone.index, Zone.index, bandIndex (by omega), bandIndex (by omega)]
    omega
  · exact .nil

theorem zonesApart : (zones cfg).Pairwise Apart := by
  unfold zones
  refine List.pairwise_append.mpr ⟨List.pairwise_append.mpr ⟨shardsApart, controlsApart, ?_⟩, bandApart, ?_⟩
  · intro z low z' high
    have := shardBelow low
    have := (controlAbove high).1
    unfold Apart
    omega
  · intro z other z' inBand
    have between := bandBetween inBand
    unfold Apart
    rcases List.mem_append.mp other with low | high
    · have := shardBelow low
      omega
    · have := (controlAbove high).1
      omega

theorem zoneIndex {z : Zone} (mem : z ∈ zones cfg) : z.index < 65536 := by
  rcases List.mem_append.mp mem with other | inBand
  · rcases List.mem_append.mp other with low | high
    · exact Nat.lt_trans (shardBelow low) (by decide)
    · exact (controlAbove high).2
  · exact Nat.lt_trans (bandBetween inBand).2 (by decide)

end Zones

theorem Spread.addrApart {e : Engine} (spread : Spread e) {z z' : Zone} {port : Nat}
    (small : z.index < 65536) (small' : z'.index < 65536)
    (same : z.addr e port = z'.addr e port) : z.index = z'.index := by
  cases z with
  | data i =>
    cases z' with
    | data j => rw [spread.addr i j port small small' same]
    | control g => exact spread.apart i g port small same
  | control g =>
    cases z' with
    | data j => exact (spread.apart j g port small' same.symm).symm
    | control h => rw [spread.groupAddr g h (UDPAddr.mk.inj same).1]

theorem buildGroupsNodup {engine : Engine} (spread : Spread engine) (cfg : Config) :
    (buildGroups cfg engine).Nodup := by
  rw [buildGroupsZones, List.Nodup, List.pairwise_map]
  refine zonesApart.imp_of_mem ?_
  intro z z' mem mem' apart same
  exact apart (spread.addrApart (zoneIndex mem) (zoneIndex mem') same)

theorem buildGroupsPositive (cfg : Config) (engine : Engine) :
    0 < (buildGroups cfg engine).length := by
  have control : 0 < (controls cfg).length := Nat.succ_pos _
  rw [buildGroupsZones, List.length_map, zones, List.length_append, List.length_append]
  omega

section Partition
variable {groups : List UDPAddr} {n : Int}

theorem partitionCases (filled : 0 < groups.length) :
    (n < 1 ∧ partition groups n = [groups]) ∨
    ∃ k : Nat, 0 < k ∧ k ≤ groups.length ∧ (k : Int) = min n groups.length ∧
      partition groups n = RoundRobin.deal k groups := by
  unfold partition
  dsimp only
  split
  · rename_i more
    rw [if_neg (by omega)]
    exact .inr ⟨groups.length, filled, Nat.le_refl _, by omega, rfl⟩
  · rename_i fits
    split
    · rename_i few
      exact .inl ⟨few, rfl⟩
    · exact .inr ⟨n.toNat, by omega, by omega, by omega, rfl⟩

theorem partitionLength (filled : 0 < groups.length) :
    ((partition groups n).length : Int) = max 1 (min n groups.length) := by
  rcases partitionCases (n := n) filled with ⟨few, one⟩ | ⟨k, positive, enough, asked, dealt⟩
  · rw [one, List.length_singleton]
    omega
  · rw [dealt, RoundRobin.dealLength]
    omega

theorem partitionPerm (filled : 0 < groups.length) : (partition groups n).flatten.Perm groups := by
  rcases partitionCases (n := n) filled with ⟨few, one⟩ | ⟨k, positive, enough, asked, dealt⟩
  · rw [one, List.flatten_singleton]
  · rw [dealt]
    exact RoundRobin.dealPerm positive groups

theorem partitionPart (filled : 0 < groups.length) {part : List UDPAddr}
    (mem : part ∈ partition groups n) : part ≠ [] ∧ part.Sublist groups := by
  rcases partitionCases (n := n) filled with ⟨few, one⟩ | ⟨k, positive, enough, asked, dealt⟩
  · rw [one] at mem
    rw [List.mem_singleton.mp mem]
    exact ⟨List.ne_nil_of_length_pos filled, List.Sublist.refl groups⟩
  · rw [dealt] at mem
    obtain ⟨i, found⟩ := List.mem_iff_getElem?.mp mem
    exact ⟨RoundRobin.dealNonempty positive enough mem, RoundRobin.dealSublist found⟩

theorem partitionBalanced (filled : 0 < groups.length) {part part' : List UDPAddr}
    (mem : part ∈ partition groups n) (mem' : part' ∈ partition groups n) :
    part.length ≤ part'.length + 1 := by
  rcases partitionCases (n := n) filled with ⟨few, one⟩ | ⟨k, positive, enough, asked, dealt⟩
  · rw [one] at mem mem'
    rw [List.mem_singleton.mp mem, List.mem_singleton.mp mem']
    omega
  · rw [dealt] at mem mem'
    exact RoundRobin.dealBalanced mem mem'

end Partition

/-- No group is listed twice, and the workers share the list out: as many parts as
asked for and possible, none empty, of sizes at most one apart, holding every group
once between them and each in the order of the list. -/
theorem ownedByOne (cfg : Config) (engine : Engine) (spread : Spread engine) (n : Int) :
    (buildGroups cfg engine).Nodup ∧
    ((partition (buildGroups cfg engine) n).length : Int) =
      max 1 (min n (buildGroups cfg engine).length) ∧
    (∀ part ∈ partition (buildGroups cfg engine) n, part ≠ [] ∧ part.Sublist (buildGroups cfg engine)) ∧
    (∀ part ∈ partition (buildGroups cfg engine) n, ∀ part' ∈ partition (buildGroups cfg engine) n,
      part.length ≤ part'.length + 1) ∧
    (partition (buildGroups cfg engine) n).flatten.Perm (buildGroups cfg engine) := by
  have filled := buildGroupsPositive cfg engine
  refine ⟨buildGroupsNodup spread cfg, partitionLength filled, ?_, ?_, partitionPerm filled⟩
  · intro part mem
    exact partitionPart filled mem
  · intro part mem part' mem'
    exact partitionBalanced filled mem mem'

theorem Sharded.spread {e : Engine} {bits : Nat} (h : Sharded e bits) : Spread e where
  addr i j port small small' same := by
    apply UInt32.toNat_inj.mp
    rw [← h.addr i port small, ← h.addr j port small', same]
  groupAddr g g' same := by
    apply UInt16.toNat_inj.mp
    rw [← h.groupAddr g 0, ← h.groupAddr g' 0, same]
  apart i g port small same := by
    rw [← h.addr i port small, ← h.groupAddr g port, same]

def fourShardsTwoBands : Config where
  shardBits := 2
  beefShardBits := 1
  subtreeDataEnabled := true
  beefEnabled := true
  listenPort := 9001
  narrow := by decide
  beefNarrow := by decide

theorem ownedByOneThree :
    (buildGroups fourShardsTwoBands fourShards).Nodup ∧
    (partition (buildGroups fourShardsTwoBands fourShards) 3).map List.length = [3, 3, 2] ∧
    (partition (buildGroups fourShardsTwoBands fourShards) 3).flatten.Perm
      (buildGroups fourShardsTwoBands fourShards) := by
  obtain ⟨once, -, -, -, all⟩ :=
    ownedByOne fourShardsTwoBands fourShards (Sharded.spread wiredEngines.sharded) 3
  exact ⟨once, by decide, all⟩

end RetryEndpoint.Groups
