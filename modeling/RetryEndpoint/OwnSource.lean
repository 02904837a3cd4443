import RetryEndpoint.Groups

/-! Source-specific joins and the node's own source: buildSSMGroupSources of main.go
and joinAll of ingress.go. A group's list of sources is a bootstrap list as resolved,
without the node itself; what is joined with an empty list is joined for any source.
The resolver belongs to shard-common: it gives a list for its entries, or an error,
and a new copy of it each time it is asked. -/
namespace RetryEndpoint.OwnSource
open BigEndian Wire Retransmit Groups
open TargetGroup (fourShards lastBytes)
open RateLimit (to16 to16Long)

def groupBeacon : UInt16 := 0xFFFD
def groupSubtreeGroupAnnounce : UInt16 := 0xFFFC

structure Lists where
  bootstrapManifest : List String
  bootstrapBeacon : List String
  bootstrapSubtreeAnn : List String
  publishersStatic : List String
  listed : bootstrapManifest ≠ [] ∨ bootstrapBeacon ≠ [] ∨ bootstrapSubtreeAnn ≠ [] ∨
    publishersStatic ≠ []
  discovered : 16 < publishersStatic.length → bootstrapManifest ≠ []

/- With a bind source, which is optional. -/
structure SSM extends Lists where
  bindSource : Bytes

/- What each list resolved to; none is the error of Start. -/
structure Rosters where
  manifest : Option (List Bytes)
  beacon : Option (List Bytes)
  subtreeAnn : Option (List Bytes)
  publishersStatic : Option (List Bytes)

abbrev GroupSources : Type := Bytes → List Bytes

def noSources : GroupSources := fun _ => []

def excludeOwnSource (srcs : List Bytes) : Option Bytes → List Bytes
  | some own => srcs.filter (· ≠ own)
  | none => srcs

def put (srcs : List Bytes) (gs : GroupSources) (ga : Bytes) : GroupSources := Function.update gs ga srcs

def resolve (entries : List String) (roster : Option (List Bytes)) (own : Option Bytes)
    (gs : GroupSources) (groupIPs : List Bytes) : Option GroupSources :=
  if entries = [] then some gs
  else do
    let current ← roster
    groupIPs.foldlM (fun gs gip => (to16 gip).map (put (excludeOwnSource current own) gs)) gs

/- The data plane skips an address it cannot use, where a control group is an error. -/
def putAll (srcs : List Bytes) (gs : GroupSources) (ips : List Bytes) : GroupSources :=
  (ips.filterMap to16).foldl (put srcs) gs

def shardIPs (cfg : Groups.Config) (e : Engine) : List Bytes :=
  (List.range cfg.numGroups.toNat).map fun i => e.groupAddr (UInt32.ofNat i).toUInt16

def bandIPs (cfg : Groups.Config) (e : Engine) : List Bytes :=
  (List.range (2 ^ cfg.beefShardBits)).map fun i => e.groupAddr (0x1000 + UInt32.ofNat i).toUInt16

def buildSSMGroupSources (cfg : Groups.Config) (ssm : SSM) (r : Rosters) (e : Engine) :
    Option GroupSources := do
  let own := some ssm.bindSource
  let gs ← resolve ssm.bootstrapBeacon r.beacon own noSources [e.groupAddr groupBeacon]
  let gs ← resolve ssm.bootstrapSubtreeAnn r.subtreeAnn own gs
    [e.groupAddr groupSubtreeDataAnnounce, e.groupAddr groupSubtreeGroupAnnounce]
  let gs ← resolve ssm.bootstrapManifest r.manifest own gs [e.groupAddr groupBlockBroadcast]
  if ssm.publishersStatic = [] then some gs
  else do
    let current ← r.publishersStatic
    let srcs := excludeOwnSource current own
    let gs := putAll srcs gs (shardIPs cfg e)
    some (if cfg.beefEnabled then putAll srcs gs (bandIPs cfg e) else gs)

structure Join where
  group : Bytes
  srcs : List Bytes
  deriving DecidableEq, Repr

/- The joins a pass requests and whether it went through. A refusal ends the first
pass and is passed over by a re-assert. -/
def joinAll (gs : GroupSources) (first : Bool) (refuses : Bytes → Bool) : List UDPAddr → List Join × Bool
  | [] => ([], true)
  | grp :: rest =>
    match to16 grp.ip with
    | none => ([], false)
    | some ga =>
      if first && refuses ga then ([⟨ga, gs ga⟩], false)
      else (⟨ga, gs ga⟩ :: (joinAll gs first refuses rest).1, (joinAll gs first refuses rest).2)

def Foreign (own : Bytes) (j : Join) : Prop := j.srcs ≠ [] ∧ own ∉ j.srcs

/- What shard-common says of group addresses: sixteen bytes, one for each index, and
the engine's own are the same ones. -/
structure Aligned (e : Engine) : Prop where
  addr : ∀ i port, (e.addr i port).ip = e.groupAddr i.toUInt16
  long : ∀ g, (e.groupAddr g).length = 16
  apart : Function.Injective e.groupAddr

theorem Aligned.longAll {ι : Type} {e : Engine} (aligned : Aligned e) (f : ι → UInt16) (is : List ι) :
    ∀ ip ∈ is.map (fun i => e.groupAddr (f i)), ip.length = 16 := by
  intro ip mem
  obtain ⟨i, -, rfl⟩ := List.mem_map.mp mem
  exact aligned.long (f i)

section Lookups
variable {entries : List String} {roster : Option (List Bytes)} {own : Option Bytes}
  {gs gs' : GroupSources} {ips : List Bytes} {srcs : List Bytes}

theorem putAt (ga ga' : Bytes) : put srcs gs ga ga' = if ga' = ga then srcs else gs ga' := by
  unfold put
  rw [Function.update_apply]

def sourcesOf (entries : List String) (roster : Option (List Bytes)) (own : Option Bytes) : List Bytes :=
  if entries = [] then [] else excludeOwnSource (roster.getD []) own

theorem foldAt (ga : Bytes) : ips.foldl (put srcs) gs ga = if ga ∈ ips then srcs else gs ga := by
  induction ips generalizing gs with
  | nil => simp
  | cons ip rest ih =>
    rw [List.foldl_cons, ih, putAt]
    by_cases later : ga ∈ rest
    · simp [later]
    · by_cases here : ga = ip
      · simp [here]
      · simp [later, here]

theorem foldAll (long : ∀ ip ∈ ips, ip.length = 16) :
    ips.foldlM (fun gs gip => (to16 gip).map (put srcs gs)) gs = some (ips.foldl (put srcs) gs) := by
  induction ips generalizing gs with
  | nil => rfl
  | cons ip rest ih =>
    rw [List.foldlM_cons, to16Long (long ip List.mem_cons_self)]
    exact ih fun ip mem => long ip (List.mem_cons_of_mem _ mem)

theorem resolveAt (long : ∀ ip ∈ ips, ip.length = 16)
    (ok : resolve entries roster own gs ips = some gs') (ga : Bytes) :
    gs' ga = if entries ≠ [] ∧ ga ∈ ips then sourcesOf entries roster own else gs ga := by
  unfold resolve at ok
  split at ok
  · rename_i none
    cases Option.some.inj ok
    simp [none]
  · rename_i listed
    obtain ⟨current, started, ok⟩ := Option.bind_eq_some_iff.mp ok
    rw [foldAll long] at ok
    rw [← Option.some.inj ok, foldAt]
    simp [sourcesOf, listed, started]

theorem putAllAt (long : ∀ ip ∈ ips, ip.length = 16) (ga : Bytes) :
    putAll srcs gs ips ga = if ga ∈ ips then srcs else gs ga := by
  have all : ips.filterMap to16 = ips := by
    rw [List.filterMap_eq_map_iff_forall_eq_some.mpr (fun ip mem => to16Long (long ip mem)), List.map_id']
  rw [putAll, all, foldAt]

def Listed (entries : List String) (roster : Option (List Bytes)) (own : Bytes) : Prop :=
  entries ≠ [] ∧ ∃ a ∈ roster.getD [], a ≠ own

theorem sourcesForeign {own : Bytes} {ga : Bytes} :
    Foreign own ⟨ga, sourcesOf entries roster (some own)⟩ ↔ Listed entries roster own := by
  unfold Foreign Listed sourcesOf
  by_cases none : entries = []
  · simp [none]
  · simp only [none, if_false, excludeOwnSource, ne_eq, not_false_eq_true, true_and]
    constructor
    · rintro ⟨some, -⟩
      obtain ⟨a, mem⟩ := List.exists_mem_of_ne_nil _ some
      obtain ⟨inside, other⟩ := List.mem_filter.mp mem
      exact ⟨a, inside, by simpa using other⟩
    · rintro ⟨a, inside, other⟩
      have mem : a ∈ (roster.getD []).filter (· ≠ own) := List.mem_filter.mpr ⟨inside, by simpa using other⟩
      refine ⟨List.ne_nil_of_mem mem, ?_⟩
      intro self
      simpa using (List.mem_filter.mp self).2

end Lookups

section Groups
variable {cfg : Groups.Config} {ssm : SSM} {r : Rosters} {e : Engine} {gs : GroupSources}

def group : Zone → UInt16
  | .data idx => idx.toUInt16
  | .control g => g

theorem groupIndex {z : Zone} (mem : z ∈ zones cfg) : (group z).toNat = z.index := by
  have small := zoneIndex mem
  cases z with
  | data idx => exact (UInt32.toNat_toUInt16 idx).trans (Nat.mod_eq_of_lt small)
  | control g => rfl

theorem zoneIP (aligned : Aligned e) (z : Zone) (port : Nat) : (z.addr e port).ip = e.groupAddr (group z) := by
  cases z with
  | data idx => exact aligned.addr idx port
  | control g => rfl

theorem shardIPsZones : shardIPs cfg e = (shards cfg).map fun z => e.groupAddr (group z) := by
  simp [shardIPs, shards, group, Function.comp_def]

theorem bandIPsZones (on : cfg.beefEnabled = true) :
    bandIPs cfg e = (band cfg).map fun z => e.groupAddr (group z) := by
  simp [bandIPs, band, on, group, Function.comp_def]

theorem inZones (aligned : Aligned e) {zs : List Zone} (some : ∀ z ∈ zs, z ∈ zones cfg) {z : Zone}
    (mem : z ∈ zones cfg) :
    e.groupAddr (group z) ∈ zs.map (fun z => e.groupAddr (group z)) ↔ ∃ z' ∈ zs, z'.index = z.index := by
  rw [List.mem_map]
  constructor
  · rintro ⟨z', inside, same⟩
    refine ⟨z', inside, ?_⟩
    rw [← groupIndex (some z' inside), ← groupIndex mem, aligned.apart same]
  · rintro ⟨z', inside, same⟩
    refine ⟨z', inside, ?_⟩
    rw [← groupIndex (some z' inside), ← groupIndex mem] at same
    rw [UInt16.toNat_inj.mp same]

theorem shardZone {z : Zone} (mem : z ∈ shards cfg) : z ∈ zones cfg :=
  List.mem_append_left _ (List.mem_append_left _ mem)

theorem controlZone {z : Zone} (mem : z ∈ controls cfg) : z ∈ zones cfg :=
  List.mem_append_left _ (List.mem_append_right _ mem)

theorem bandZone {z : Zone} (mem : z ∈ band cfg) : z ∈ zones cfg := List.mem_append_right _ mem

def sourcesFor (ssm : SSM) (r : Rosters) : Zone → List Bytes
  | .data _ => sourcesOf ssm.publishersStatic r.publishersStatic (some ssm.bindSource)
  | .control g =>
    if g = groupBlockBroadcast then sourcesOf ssm.bootstrapManifest r.manifest (some ssm.bindSource)
    else sourcesOf ssm.bootstrapSubtreeAnn r.subtreeAnn (some ssm.bindSource)

theorem resolveOther (aligned : Aligned e) {entries : List String} {roster : Option (List Bytes)}
    {own : Option Bytes} {before after : GroupSources} {groups : List UInt16} {g : UInt16}
    (ok : resolve entries roster own before (groups.map e.groupAddr) = some after)
    (other : g ∉ groups) : after (e.groupAddr g) = before (e.groupAddr g) := by
  have long := aligned.longAll id groups
  rw [resolveAt long ok, if_neg]
  rintro ⟨-, mem⟩
  exact other ((List.mem_map_of_injective aligned.apart).mp mem)

theorem resolveOwn (aligned : Aligned e) {entries : List String} {roster : Option (List Bytes)}
    {own : Option Bytes} {before after : GroupSources} {groups : List UInt16} {g : UInt16}
    (ok : resolve entries roster own before (groups.map e.groupAddr) = some after)
    (mine : g ∈ groups) (fresh : before (e.groupAddr g) = []) :
    after (e.groupAddr g) = sourcesOf entries roster own := by
  have long := aligned.longAll id groups
  rw [resolveAt long ok]
  by_cases none : entries = []
  · simp [none, sourcesOf, fresh]
  · rw [if_pos ⟨none, (List.mem_map_of_injective aligned.apart).mpr mine⟩]

theorem dataAt (aligned : Aligned e) {srcs : List Bytes} {z : Zone} (mem : z ∈ zones cfg) :
    (if cfg.beefEnabled then putAll srcs (putAll srcs gs (shardIPs cfg e)) (bandIPs cfg e)
      else putAll srcs gs (shardIPs cfg e)) (e.groupAddr (group z)) =
      if z ∈ controls cfg then gs (e.groupAddr (group z)) else srcs := by
  have longShards : ∀ ip ∈ shardIPs cfg e, ip.length = 16 := aligned.longAll _ _
  have longBand : ∀ ip ∈ bandIPs cfg e, ip.length = 16 := aligned.longAll _ _
  have inShards : e.groupAddr (group z) ∈ shardIPs cfg e ↔ ∃ z' ∈ shards cfg, z'.index = z.index := by
    rw [shardIPsZones]
    exact inZones aligned (fun _ low => shardZone low) mem
  have inBand (on : cfg.beefEnabled = true) :
      e.groupAddr (group z) ∈ bandIPs cfg e ↔ ∃ z' ∈ band cfg, z'.index = z.index := by
    rw [bandIPsZones on]
    exact inZones aligned (fun _ low => bandZone low) mem
  by_cases control : z ∈ controls cfg
  · have high := (controlAbove control).1
    have notShard : e.groupAddr (group z) ∉ shardIPs cfg e := by
      rw [inShards]
      rintro ⟨z', low, same⟩
      have := shardBelow low
      omega
    rw [if_pos control]
    split
    · rename_i on
      have notBand : e.groupAddr (group z) ∉ bandIPs cfg e := by
        rw [inBand on]
        rintro ⟨z', low, same⟩
        have := (bandBetween low).2
        omega
      rw [putAllAt longBand, if_neg notBand, putAllAt longShards, if_neg notShard]
    · rw [putAllAt longShards, if_neg notShard]
  · rw [if_neg control]
    rcases List.mem_append.mp mem with other | banded
    · have shard : e.groupAddr (group z) ∈ shardIPs cfg e :=
        inShards.mpr ⟨z, (List.mem_append.mp other).resolve_right control, rfl⟩
      split
      · rw [putAllAt longBand, putAllAt longShards, if_pos shard, ite_self]
      · rw [putAllAt longShards, if_pos shard]
    · have on : cfg.beefEnabled = true := by
        unfold band at banded
        split at banded
        · assumption
        · cases banded
      rw [if_pos on, putAllAt longBand, if_pos ((inBand on).mpr ⟨z, banded, rfl⟩)]

theorem controlCases {z : Zone} (mem : z ∈ controls cfg) :
    z = .control groupBlockBroadcast ∨ z = .control groupSubtreeDataAnnounce ∧ cfg.subtreeDataEnabled = true := by
  unfold controls at mem
  rcases List.mem_cons.mp mem with rfl | subtree
  · exact .inl rfl
  · split at subtree
    · rename_i on
      exact .inr ⟨List.mem_singleton.mp subtree, on⟩
    · cases subtree

theorem dataCases {z : Zone} (mem : z ∈ zones cfg) (data : z ∉ controls cfg) :
    z.index < 0x2000 ∧ ∃ idx, z = .data idx := by
  rcases List.mem_append.mp mem with other | banded
  · have shard := (List.mem_append.mp other).resolve_right data
    refine ⟨Nat.lt_trans (shardBelow shard) (by decide), ?_⟩
    obtain ⟨i, -, rfl⟩ := List.mem_map.mp shard
    exact ⟨_, rfl⟩
  · refine ⟨(bandBetween banded).2, ?_⟩
    unfold band at banded
    split at banded
    · obtain ⟨i, -, rfl⟩ := List.mem_map.mp banded
      exact ⟨_, rfl⟩
    · cases banded

theorem sourcesAt (aligned : Aligned e) (built : buildSSMGroupSources cfg ssm r e = some gs) {z : Zone}
    (mem : z ∈ zones cfg) : gs (e.groupAddr (group z)) = sourcesFor ssm r z := by
  simp only [buildSSMGroupSources, bind, Option.bind_eq_some_iff] at built
  obtain ⟨first, beacon, second, subtree, third, manifest, built⟩ := built
  have manifest : resolve ssm.bootstrapManifest r.manifest (some ssm.bindSource) second
      ([groupBlockBroadcast].map e.groupAddr) = some third := manifest
  have subtree : resolve ssm.bootstrapSubtreeAnn r.subtreeAnn (some ssm.bindSource) first
      ([groupSubtreeDataAnnounce, groupSubtreeGroupAnnounce].map e.groupAddr) = some second := subtree
  have beacon : resolve ssm.bootstrapBeacon r.beacon (some ssm.bindSource) noSources
      ([groupBeacon].map e.groupAddr) = some first := beacon
  -- Every group but the beacon's starts without a list.
  have start : ∀ g, g ≠ groupBeacon → first (e.groupAddr g) = [] := by
    intro g other
    rw [resolveOther aligned beacon (by simpa using other)]
    rfl
  have controlled : z ∈ controls cfg → third (e.groupAddr (group z)) = sourcesFor ssm r z := by
    intro control
    rcases controlCases control with rfl | ⟨rfl, -⟩
    · have fresh := resolveOther aligned subtree (g := groupBlockBroadcast) (by decide)
      exact resolveOwn aligned manifest (by decide) (fresh.trans (start _ (by decide)))
    · rw [group, resolveOther aligned manifest (by decide)]
      exact resolveOwn aligned subtree (by decide) (start _ (by decide))
  by_cases control : z ∈ controls cfg
  · rw [← controlled control]
    split at built
    · cases Option.some.inj built
      rfl
    · obtain ⟨current, -, built⟩ := Option.bind_eq_some_iff.mp built
      rw [← Option.some.inj built, dataAt aligned mem, if_pos control]
  · obtain ⟨low, idx, rfl⟩ := dataCases mem control
    have other : ∀ g : UInt16, 0x2000 ≤ g.toNat → group (.data idx) ≠ g := by
      intro g high same
      have index := groupIndex mem
      rw [same] at index
      omega
    split at built
    · rename_i none
      cases Option.some.inj built
      rw [resolveOther aligned manifest (by simpa using other _ (by decide)),
        resolveOther aligned subtree (by simpa using ⟨other _ (by decide), other _ (by decide)⟩),
        start _ (other _ (by decide))]
      simp [sourcesFor, sourcesOf, none]
    · rename_i listed
      obtain ⟨current, started, built⟩ := Option.bind_eq_some_iff.mp built
      rw [← Option.some.inj built, dataAt aligned mem, if_neg control]
      simp [sourcesFor, sourcesOf, listed, started]

structure Fed (cfg : Groups.Config) (ssm : SSM) (r : Rosters) : Prop where
  publishers : Listed ssm.publishersStatic r.publishersStatic ssm.bindSource
  manifest : Listed ssm.bootstrapManifest r.manifest ssm.bindSource
  subtree : cfg.subtreeDataEnabled = true → Listed ssm.bootstrapSubtreeAnn r.subtreeAnn ssm.bindSource

theorem firstShard : Zone.data 0 ∈ shards cfg := by
  have bound := (numGroupsNat cfg).1
  have some : 0 < 2 ^ cfg.shardBits := Nat.two_pow_pos _
  exact List.mem_map.mpr ⟨0, List.mem_range.mpr (by omega), rfl⟩

theorem zonesForeign : (∀ z ∈ zones cfg, Foreign ssm.bindSource ⟨e.groupAddr (group z), sourcesFor ssm r z⟩) ↔
    Fed cfg ssm r := by
  constructor
  · intro all
    refine ⟨?_, ?_, ?_⟩
    · exact sourcesForeign.mp (all _ (shardZone firstShard))
    · exact sourcesForeign.mp (all (.control groupBlockBroadcast) (controlZone List.mem_cons_self))
    · intro on
      have there : Zone.control groupSubtreeDataAnnounce ∈ controls cfg := by simp [controls, on]
      exact sourcesForeign.mp (all _ (controlZone there))
  · intro fed z mem
    by_cases control : z ∈ controls cfg
    · rcases controlCases control with rfl | ⟨rfl, on⟩
      · exact sourcesForeign.mpr fed.manifest
      · exact sourcesForeign.mpr (fed.subtree on)
    · obtain ⟨-, idx, rfl⟩ := dataCases mem control
      exact sourcesForeign.mpr fed.publishers

end Groups

section Joins
variable {gs : GroupSources} {part : List UDPAddr}

theorem joinAllMem {first : Bool} {refuses : Bytes → Bool} (long : ∀ grp ∈ part, grp.ip.length = 16)
    {j : Join} (mem : j ∈ (joinAll gs first refuses part).1) : ∃ grp ∈ part, j = ⟨grp.ip, gs grp.ip⟩ := by
  induction part with
  | nil => cases mem
  | cons grp rest ih =>
    simp only [joinAll, to16Long (long grp List.mem_cons_self)] at mem
    split at mem
    · exact ⟨grp, List.mem_cons_self, List.mem_singleton.mp mem⟩
    · rcases List.mem_cons.mp mem with same | later
      · exact ⟨grp, List.mem_cons_self, same⟩
      · obtain ⟨other, inside, same⟩ := ih (fun g m => long g (List.mem_cons_of_mem _ m)) later
        exact ⟨other, List.mem_cons_of_mem _ inside, same⟩

theorem joinAllEvery {first : Bool} (long : ∀ grp ∈ part, grp.ip.length = 16) {grp : UDPAddr}
    (mem : grp ∈ part) : ⟨grp.ip, gs grp.ip⟩ ∈ (joinAll gs first (fun _ => false) part).1 := by
  induction part with
  | nil => cases mem
  | cons head rest ih =>
    simp only [joinAll, to16Long (long head List.mem_cons_self), Bool.and_false, Bool.false_eq_true,
      if_false]
    rcases List.mem_cons.mp mem with rfl | later
    · exact List.mem_cons_self
    · exact List.mem_cons_of_mem _ (ih (fun g m => long g (List.mem_cons_of_mem _ m)) later)

end Joins

/-- Every membership any worker asks for, on its first pass or a later one, is for
sources among which the node itself is not, exactly when the three lists its groups
depend on are given and resolve to someone else as well. -/
theorem joinsForeign (cfg : Groups.Config) (ssm : SSM) (r : Rosters) (e : Engine) (aligned : Aligned e)
    (gs : GroupSources) (built : buildSSMGroupSources cfg ssm r e = some gs) (n : Int) :
    (∀ part ∈ partition (buildGroups cfg e) n, ∀ first refuses,
      ∀ j ∈ (joinAll gs first refuses part).1, Foreign ssm.bindSource j) ↔ Fed cfg ssm r := by
  have filled := buildGroupsPositive cfg e
  have zoned : ∀ grp ∈ buildGroups cfg e, ∃ z ∈ zones cfg, grp.ip = e.groupAddr (group z) := by
    intro grp mem
    rw [buildGroupsZones] at mem
    obtain ⟨z, inside, rfl⟩ := List.mem_map.mp mem
    exact ⟨z, inside, zoneIP aligned z _⟩
  have long : ∀ part ∈ partition (buildGroups cfg e) n, ∀ grp ∈ part, grp.ip.length = 16 := by
    intro part mem grp inside
    obtain ⟨z, -, same⟩ := zoned grp ((partitionPart filled mem).2.subset inside)
    rw [same]
    exact aligned.long _
  rw [← zonesForeign (e := e)]
  constructor
  · intro all z mem
    have listed : z.addr e cfg.listenPort ∈ buildGroups cfg e := by
      rw [buildGroupsZones]
      exact List.mem_map_of_mem mem
    obtain ⟨part, there, inside⟩ := List.mem_flatten.mp ((partitionPerm (n := n) filled).mem_iff.mpr listed)
    have asked := all part there true _ _ (joinAllEvery (long part there) inside)
    rw [zoneIP aligned, sourcesAt aligned built mem] at asked
    exact asked
  · intro all part there first refuses j mem
    obtain ⟨grp, inside, rfl⟩ := joinAllMem (long part there) mem
    obtain ⟨z, zone, same⟩ := zoned grp ((partitionPart filled there).2.subset inside)
    rw [same, sourcesAt aligned built zone]
    exact all z zone

theorem fourShardsAligned : Aligned fourShards where
  addr _ _ := rfl
  long g := by simp [fourShards, lastBytes, putUint16Length]
  apart g h same := by
    have read := TargetGroup.groupOfLastBytes g 0
    rw [show lastBytes g = lastBytes h from same, TargetGroup.groupOfLastBytes h 0] at read
    exact UInt16.toNat_inj.mp read.symm

def ownAddr : Bytes := List.replicate 15 0xFD ++ [0xA8]
def peerAddr : Bytes := List.replicate 15 0xFD ++ [0xB8]

def threeLists : SSM where
  bindSource := ownAddr
  bootstrapManifest := ["manifest"]
  bootstrapBeacon := []
  bootstrapSubtreeAnn := ["announce"]
  publishersStatic := ["publishers"]
  listed := .inl (List.cons_ne_nil _ _)
  discovered := fun _ => List.cons_ne_nil _ _

def amongPeers : Rosters :=
  ⟨some [ownAddr, peerAddr], none, some [peerAddr], some [peerAddr, ownAddr]⟩

def ownOnly : Rosters := ⟨some [ownAddr, peerAddr], none, some [peerAddr], some [ownAddr]⟩

theorem joinsForeignPeers : ∃ gs, buildSSMGroupSources fourShardsTwoBands threeLists amongPeers fourShards = some gs ∧
    ∀ part ∈ partition (buildGroups fourShardsTwoBands fourShards) 3, ∀ first refuses,
      ∀ j ∈ (joinAll gs first refuses part).1, Foreign ownAddr j := by
  obtain ⟨gs, built⟩ : ∃ gs, buildSSMGroupSources fourShardsTwoBands threeLists amongPeers fourShards = some gs :=
    ⟨_, rfl⟩
  refine ⟨gs, built, (joinsForeign _ _ _ _ fourShardsAligned gs built 3).mpr ⟨?_, ?_, ?_⟩⟩
  · exact ⟨List.cons_ne_nil _ _, peerAddr, by decide, by decide⟩
  · exact ⟨List.cons_ne_nil _ _, peerAddr, by decide, by decide⟩
  · intro _
    exact ⟨List.cons_ne_nil _ _, peerAddr, by decide, by decide⟩

/- The publishers' list is the node itself: its shard groups are joined for any source. -/
theorem joinsAnySource : ∃ gs part,
    buildSSMGroupSources fourShardsTwoBands threeLists ownOnly fourShards = some gs ∧
    part ∈ partition (buildGroups fourShardsTwoBands fourShards) 1 ∧
    ⟨lastBytes 0, []⟩ ∈ (joinAll gs true (fun _ => false) part).1 ∧
    ¬ Foreign ownAddr ⟨lastBytes 0, []⟩ := by
  refine ⟨_, buildGroups fourShardsTwoBands fourShards, rfl, by decide, by decide, ?_⟩
  intro foreign
  exact foreign.1 rfl

end RetryEndpoint.OwnSource
