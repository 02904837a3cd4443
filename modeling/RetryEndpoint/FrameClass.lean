import RetryEndpoint.Ingress

/-! What the FrameVer byte and the class tests of the frame package say about a
frame the ingress stores. The package is another repository's: what its tests and
decoders look at is assumed here by name, and a library that reads the header as
documented stands at the end to compute with. -/
namespace RetryEndpoint.FrameClass
open BigEndian Wire Cache Ingress

/- Every class test looks for its FrameVer, and Decode takes none of theirs. -/
structure ReadsClass (lib : FrameLib) : Prop where
  isBlockFrame : ∀ raw, lib.isBlockFrame raw = true → byteAt raw 6 = frameVerV4
  isSubtreeDataFrame : ∀ raw, lib.isSubtreeDataFrame raw = true → byteAt raw 6 = frameVerV5
  isAnchorFrame : ∀ raw, lib.isAnchorFrame raw = true → byteAt raw 6 = frameVerV6
  isBundle : ∀ raw, lib.isBundle raw = true → byteAt raw 6 = frameVerV8
  isBEEFFrame : ∀ raw, lib.isBEEFFrame raw = true → byteAt raw 6 = frameVerV9
  isFragment : ∀ raw, lib.isFragment raw = true → byteAt raw 6 = frameVerV3
  decode : ∀ raw f, lib.decode raw = some f → byteAt raw 6 ∈ ([1, 2, 7] : List UInt8)

structure ChecksMagic (lib : FrameLib) : Prop where
  decode : ∀ raw f, lib.decode raw = some f → uint32 (slice raw 0 4) = magicBSV
  decodeBlock : ∀ raw f, lib.decodeBlock raw = some f → uint32 (slice raw 0 4) = magicBSV
  decodeSubtreeData : ∀ raw f, lib.decodeSubtreeData raw = some f → uint32 (slice raw 0 4) = magicBSV
  decodeAnchor : ∀ raw f, lib.decodeAnchor raw = some f → uint32 (slice raw 0 4) = magicBSV
  decodeBEEF : ∀ raw f, lib.decodeBEEF raw = some f → uint32 (slice raw 0 4) = magicBSV
  decodeFragment : ∀ raw f, lib.decodeFragment raw = some f → uint32 (slice raw 0 4) = magicBSV

/- A BEEF frame has its whole header, and a fragment's TxID is at the offset every
class has it at. -/
structure ReadsRoute (lib : FrameLib) : Prop where
  decodeBEEF : ∀ raw f, lib.decodeBEEF raw = some f → headerSize ≤ raw.length
  decodeFragment : ∀ raw ff, lib.decodeFragment raw = some ff →
    headerSize ≤ raw.length ∧ ff.txID = slice raw 8 40

inductive StoredAs (lib : FrameLib) (raw : Bytes) (f : Flow) : Prop where
  | block (ver : byteAt raw 6 = frameVerV4) (read : lib.decodeBlock raw = some f)
      (ttl : ∀ ttls, classTTL lib ttls raw = ttls.block)
  | subtreeData (ver : byteAt raw 6 = frameVerV5) (read : lib.decodeSubtreeData raw = some f)
      (ttl : ∀ ttls, classTTL lib ttls raw = ttls.subtree)
  | anchor (ver : byteAt raw 6 = frameVerV6) (read : lib.decodeAnchor raw = some f)
      (ttl : ∀ ttls, classTTL lib ttls raw = ttls.anchor)
  | bundle (ver : byteAt raw 6 = frameVerV8) (test : lib.isBundle raw = true)
      (read : bundleFlow raw = some f) (ttl : ∀ ttls, classTTL lib ttls raw = ttls.tx)
  | beef (ver : byteAt raw 6 = frameVerV9) (test : lib.isBEEFFrame raw = true)
      (read : lib.decodeBEEF raw = some f) (ttl : ∀ ttls, classTTL lib ttls raw = ttls.beef)
  | fragment {ff} (ver : byteAt raw 6 = frameVerV3) (read : lib.decodeFragment raw = some ff)
      (flow : f = ⟨ff.hashKey, ff.seqNum⟩)
      (ttl : ∀ ttls, classTTL lib ttls raw = fragmentTTL ttls ff.origFrameVer)
  | base (ver : byteAt raw 6 ∈ ([1, 2, 7] : List UInt8)) (read : lib.decode raw = some f)
      (ttl : ∀ ttls, classTTL lib ttls raw = ttls.tx)

section Stored
variable {lib : FrameLib} {raw : Bytes} {f : Flow}

theorem storedAs (reads : ReadsClass lib) (ok : decodeClass lib raw = some f) : StoredAs lib raw f := by
  unfold decodeClass at ok
  split at ok
  · rename_i block
    exact .block (reads.isBlockFrame raw block) ok (fun _ => by simp [classTTL, block])
  rename_i noBlock
  split at ok
  · rename_i subtree
    exact .subtreeData (reads.isSubtreeDataFrame raw subtree) ok
      (fun _ => by simp [classTTL, noBlock, subtree])
  rename_i noSubtree
  split at ok
  · rename_i anchor
    exact .anchor (reads.isAnchorFrame raw anchor) ok
      (fun _ => by simp [classTTL, noBlock, noSubtree, anchor])
  rename_i noAnchor
  split at ok
  · rename_i bundle
    exact .bundle (reads.isBundle raw bundle) bundle ok
      (fun _ => by simp [classTTL, noBlock, noSubtree, noAnchor, bundle])
  rename_i noBundle
  split at ok
  · rename_i beef
    exact .beef (reads.isBEEFFrame raw beef) beef ok
      (fun _ => by simp [classTTL, noBlock, noSubtree, noAnchor, noBundle, beef])
  rename_i noBEEF
  split at ok
  · rename_i fragment
    obtain ⟨ff, read, flow⟩ := Option.map_eq_some_iff.mp ok
    exact .fragment (reads.isFragment raw fragment) read flow.symm
      (fun _ => by simp [classTTL, noBlock, noSubtree, noAnchor, noBundle, noBEEF, fragment, read])
  · rename_i noFragment
    exact .base (reads.decode raw f ok) ok
      (fun _ => by simp [classTTL, noBlock, noSubtree, noAnchor, noBundle, noBEEF, noFragment])

theorem bundleFlowReads (ok : bundleFlow raw = some f) :
    bundleHeaderSize ≤ raw.length ∧ uint32 (slice raw 0 4) = magicBSV := by
  unfold bundleFlow at ok
  split at ok <;> try contradiction
  rename_i h read
  unfold bundleKey at read
  split at read <;> try contradiction
  rename_i long
  split at read <;> try contradiction
  rename_i magic
  exact ⟨Nat.not_lt.mp long, not_not.mp magic⟩

theorem storedMagic (reads : ReadsClass lib) (checks : ChecksMagic lib)
    (ok : decodeClass lib raw = some f) : uint32 (slice raw 0 4) = magicBSV := by
  cases storedAs reads ok with
  | block ver read => exact checks.decodeBlock raw f read
  | subtreeData ver read => exact checks.decodeSubtreeData raw f read
  | anchor ver read => exact checks.decodeAnchor raw f read
  | bundle ver test read => exact (bundleFlowReads read).2
  | beef ver test read => exact checks.decodeBEEF raw f read
  | fragment ver read => exact checks.decodeFragment raw _ read
  | base ver read => exact checks.decode raw f read

theorem baseVers {ver : UInt8} (base : ver ∈ ([1, 2, 7] : List UInt8)) : ver = 1 ∨ ver = 2 ∨ ver = 7 := by
  simpa using base

theorem storedVer (reads : ReadsClass lib) (ok : decodeClass lib raw = some f) :
    1 ≤ (byteAt raw 6).toNat ∧ (byteAt raw 6).toNat ≤ 9 := by
  cases storedAs reads ok with
  | block ver | subtreeData ver | anchor ver | bundle ver | beef ver | fragment ver =>
    rw [ver]
    decide
  | base ver =>
    rcases baseVers ver with ver | ver | ver <;> rw [ver] <;> decide

end Stored

/- The header of every class but the bundle, read at the documented offsets. Where
a fragment carries the FrameVer it was cut from is the library's own choice. -/
def readHeader (raw : Bytes) : Option Flow :=
  if headerSize ≤ raw.length ∧ uint32 (slice raw 0 4) = magicBSV then
    some ⟨uint64 (slice raw 40 48), uint64 (slice raw 48 56)⟩ else none

def readFragment (raw : Bytes) : Option Fragment := (readHeader raw).map (fun f =>
  ⟨f.hashKey, f.seqNum, byteAt raw 7, slice raw 8 40, slice raw 56 88⟩)

def byVersion : FrameLib where
  isBlockFrame raw := byteAt raw 6 == frameVerV4
  isSubtreeDataFrame raw := byteAt raw 6 == frameVerV5
  isAnchorFrame raw := byteAt raw 6 == frameVerV6
  isBundle raw := byteAt raw 6 == frameVerV8
  isBEEFFrame raw := byteAt raw 6 == frameVerV9
  isFragment raw := byteAt raw 6 == frameVerV3
  decode raw := if byteAt raw 6 ∈ ([1, 2, 7] : List UInt8) then readHeader raw else none
  decodeBlock := readHeader
  decodeSubtreeData := readHeader
  decodeAnchor := readHeader
  decodeBEEF := readHeader
  decodeFragment := readFragment
  isEncap := FrameLib.plain.isEncap
  decap := FrameLib.plain.decap

theorem readHeaderReads {raw : Bytes} {f : Flow} (ok : readHeader raw = some f) :
    headerSize ≤ raw.length ∧ uint32 (slice raw 0 4) = magicBSV ∧ KeyAt raw f.hashKey f.seqNum := by
  unfold readHeader at ok
  split at ok <;> try contradiction
  rename_i shape
  cases Option.some.inj ok
  exact ⟨shape.1, shape.2, Nat.le_trans (by decide) shape.1, rfl, rfl⟩

theorem readFragmentReads {raw : Bytes} {ff : Fragment} (ok : readFragment raw = some ff) :
    headerSize ≤ raw.length ∧ uint32 (slice raw 0 4) = magicBSV ∧ KeyAt raw ff.hashKey ff.seqNum ∧
      ff.txID = slice raw 8 40 := by
  obtain ⟨f, read, rfl⟩ := Option.map_eq_some_iff.mp ok
  obtain ⟨long, magic, key⟩ := readHeaderReads read
  exact ⟨long, magic, key, rfl⟩

theorem byVersionDecodes {raw : Bytes} {f : Flow} (ok : byVersion.decode raw = some f) :
    byteAt raw 6 ∈ ([1, 2, 7] : List UInt8) ∧ readHeader raw = some f := by
  simp only [byVersion] at ok
  split at ok <;> try contradiction
  exact ⟨by assumption, ok⟩

theorem byVersionReadsClass : ReadsClass byVersion :=
  ⟨fun _ => eq_of_beq, fun _ => eq_of_beq, fun _ => eq_of_beq, fun _ => eq_of_beq, fun _ => eq_of_beq,
    fun _ => eq_of_beq, fun _ _ ok => (byVersionDecodes ok).1⟩

theorem byVersionChecksMagic : ChecksMagic byVersion :=
  ⟨fun _ _ ok => (readHeaderReads (byVersionDecodes ok).2).2.1, fun _ _ ok => (readHeaderReads ok).2.1,
    fun _ _ ok => (readHeaderReads ok).2.1, fun _ _ ok => (readHeaderReads ok).2.1,
    fun _ _ ok => (readHeaderReads ok).2.1, fun _ _ ok => (readFragmentReads ok).2.1⟩

theorem byVersionReadsFlowKey : byVersion.ReadsFlowKey :=
  ⟨fun _ _ ok => (readHeaderReads (byVersionDecodes ok).2).2.2, fun _ _ ok => (readHeaderReads ok).2.2,
    fun _ _ ok => (readHeaderReads ok).2.2, fun _ _ ok => (readHeaderReads ok).2.2,
    fun _ _ ok => (readHeaderReads ok).2.2, fun _ _ ok => (readFragmentReads ok).2.2.1⟩

theorem byVersionReadsRoute : ReadsRoute byVersion :=
  ⟨fun _ _ ok => (readHeaderReads ok).1,
    fun _ _ ok => ⟨(readFragmentReads ok).1, (readFragmentReads ok).2.2.2⟩⟩

def frameOf (ver orig : UInt8) (hashKey seqNum : UInt64) : Bytes :=
  preamble ++ [ver, orig] ++ List.replicate 32 0 ++ flowKey hashKey seqNum ++ List.replicate 36 0

def emptyBundle (group : UInt16) (hashKey seqNum : UInt64) : Bytes :=
  preamble ++ [frameVerV8, 0] ++ List.replicate 32 0 ++ flowKey hashKey seqNum ++ putUint16 group ++
    List.replicate 8 0

end RetryEndpoint.FrameClass
