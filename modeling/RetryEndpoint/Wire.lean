import RetryEndpoint.BigEndian

/-! Wire constants and messages. The frame package, its bundle and tee siblings
and the shard engines live in another repository: their class tests, decoders
and group derivations are parameters, and what the code relies on is a named
assumption about them. Numeric constants of theirs are the documented ones. -/
namespace RetryEndpoint.Wire
open BigEndian

def magicBSV : UInt32 := 0xE3E1F3E8
def protoVer : UInt16 := 0x02BF
def headerSize : Nat := 92
def bundleHeaderSize : Nat := 66
def teeHeaderSize : Nat := 24

def frameVerV3 : UInt8 := 0x03
def frameVerV4 : UInt8 := 0x04
def frameVerV5 : UInt8 := 0x05
def frameVerV6 : UInt8 := 0x06
def frameVerV8 : UInt8 := 0x08
def frameVerV9 : UInt8 := 0x09

def nackSize : Nat := 64
def responseSize : Nat := 16
def msgTypeNACK : UInt8 := 0x10
def msgTypeMISS : UInt8 := 0x11
def msgTypeACK : UInt8 := 0x12
def msgTypeThrottled : UInt8 := 0x13
def flagProxied : UInt8 := 0x01

structure UDPAddr where
  ip : Bytes
  port : Nat
  deriving DecidableEq, Repr

/- The fields of a decoded frame that this program reads, logging aside. -/
structure Flow where
  hashKey : UInt64
  seqNum : UInt64
  deriving DecidableEq, Repr

structure Fragment where
  hashKey : UInt64
  seqNum : UInt64
  origFrameVer : UInt8
  txID : Bytes
  subtreeID : Bytes
  deriving DecidableEq, Repr

/- none is the decoder's error. -/
structure FrameLib where
  isBlockFrame : Bytes → Bool
  isSubtreeDataFrame : Bytes → Bool
  isAnchorFrame : Bytes → Bool
  isBundle : Bytes → Bool
  isBEEFFrame : Bytes → Bool
  isFragment : Bytes → Bool
  decode : Bytes → Option Flow
  decodeBlock : Bytes → Option Flow
  decodeSubtreeData : Bytes → Option Flow
  decodeAnchor : Bytes → Option Flow
  decodeBEEF : Bytes → Option Flow
  decodeFragment : Bytes → Option Fragment
  isEncap : Bytes → Bool
  decap : Bytes → Option (Bytes × Bytes)

structure Engine where
  groupIndex : Bytes → UInt32
  addr : UInt32 → Nat → UDPAddr
  groupAddr : UInt16 → Bytes

structure PlaneEngine where
  groupIndex : Bytes → UInt32

def flowKey (hashKey seqNum : UInt64) : Bytes := putUint64 hashKey ++ putUint64 seqNum

def keyBytes (raw : Bytes) : Bytes := slice raw 40 56

@[simp] theorem flowKeyLength (hashKey seqNum : UInt64) : (flowKey hashKey seqNum).length = 16 := by
  simp [flowKey]

theorem flowKeyInj {h h' n n' : UInt64} (same : flowKey h n = flowKey h' n') : h = h' ∧ n = n' := by
  obtain ⟨hash, seq⟩ := List.append_inj same (by simp)
  exact ⟨by rw [← uint64Put h, hash, uint64Put], by rw [← uint64Put n, seq, uint64Put]⟩

structure KeyAt (raw : Bytes) (hashKey seqNum : UInt64) : Prop where
  long : 56 ≤ raw.length
  hash : hashKey = uint64 (slice raw 40 48)
  seq : seqNum = uint64 (slice raw 48 56)

theorem KeyAt.flowKey {raw : Bytes} {hashKey seqNum : UInt64} (h : KeyAt raw hashKey seqNum) :
    Wire.flowKey hashKey seqNum = keyBytes raw := by
  have long := h.long
  rw [Wire.flowKey, h.hash, h.seq,
    putUint64Read (sliceLength (by omega)), putUint64Read (sliceLength (by omega))]
  exact sliceAppendSlice raw (by omega) (by omega)

/- Every class decoder reads HashKey from bytes 40..47 and SeqNum from 48..55. -/
structure FrameLib.ReadsFlowKey (lib : FrameLib) : Prop where
  decode : ∀ raw f, lib.decode raw = some f → KeyAt raw f.hashKey f.seqNum
  decodeBlock : ∀ raw f, lib.decodeBlock raw = some f → KeyAt raw f.hashKey f.seqNum
  decodeSubtreeData : ∀ raw f, lib.decodeSubtreeData raw = some f → KeyAt raw f.hashKey f.seqNum
  decodeAnchor : ∀ raw f, lib.decodeAnchor raw = some f → KeyAt raw f.hashKey f.seqNum
  decodeBEEF : ∀ raw f, lib.decodeBEEF raw = some f → KeyAt raw f.hashKey f.seqNum
  decodeFragment : ∀ raw f, lib.decodeFragment raw = some f → KeyAt raw f.hashKey f.seqNum

/- An envelope is its header followed by the mirrored frame. -/
def FrameLib.DecapsPayload (lib : FrameLib) : Prop :=
  ∀ pkt src payload, lib.decap pkt = some (src, payload) →
    teeHeaderSize ≤ pkt.length ∧ payload = pkt.drop teeHeaderSize

def FrameLib.plain : FrameLib where
  isBlockFrame _ := false
  isSubtreeDataFrame _ := false
  isAnchorFrame _ := false
  isBundle _ := false
  isBEEFFrame _ := false
  isFragment _ := false
  decode raw := if headerSize ≤ raw.length then
    some ⟨uint64 (slice raw 40 48), uint64 (slice raw 48 56)⟩ else none
  decodeBlock _ := none
  decodeSubtreeData _ := none
  decodeAnchor _ := none
  decodeBEEF _ := none
  decodeFragment _ := none
  isEncap pkt := teeHeaderSize ≤ pkt.length && byteAt pkt 0 == 0x01
  decap pkt := if teeHeaderSize ≤ pkt.length then some ([], pkt.drop teeHeaderSize) else none

def Engine.single : Engine := ⟨fun _ => 0, fun _ port => ⟨[0xFF], port⟩, fun _ => [0xFE]⟩

theorem plainReadsFlowKey : FrameLib.plain.ReadsFlowKey := by
  refine ⟨?_, ?_, ?_, ?_, ?_, ?_⟩ <;> intro raw f ok
  · simp only [FrameLib.plain] at ok
    split at ok <;> try contradiction
    rename_i long
    cases Option.some.inj ok
    exact ⟨Nat.le_trans (by decide) long, rfl, rfl⟩
  all_goals cases ok

theorem plainDecapsPayload : FrameLib.plain.DecapsPayload := by
  intro pkt src payload ok
  simp only [FrameLib.plain] at ok
  split at ok <;> try contradiction
  rename_i long
  cases Option.some.inj ok
  exact ⟨long, rfl⟩

def plainFrame (hashKey seqNum : UInt64) (filler : UInt8) : Bytes :=
  List.replicate 40 0 ++ flowKey hashKey seqNum ++ List.replicate 36 filler

def enveloped (frame : Bytes) : Bytes := List.replicate teeHeaderSize 0x01 ++ frame

def preamble : Bytes := putUint32 magicBSV ++ putUint16 protoVer

theorem preambleBytes : preamble = [0xE3, 0xE1, 0xF3, 0xE8, 0x02, 0xBF] := by decide

def nack (flags : UInt8) (hashKey startSeq endSeq : UInt64) (subtree : Bytes) : Bytes :=
  preamble ++ [msgTypeNACK, flags] ++ putUint64 hashKey ++ putUint64 startSeq ++ putUint64 endSeq ++
    subtree

theorem nackFields (flags : UInt8) (hashKey startSeq endSeq : UInt64) (subtree : Bytes) :
    nack flags hashKey startSeq endSeq subtree = [putUint32 magicBSV, putUint16 protoVer, [msgTypeNACK], [flags],
      putUint64 hashKey, putUint64 startSeq, putUint64 endSeq, subtree].flatten := by
  simp [nack, preamble]

def response (msgType flags : UInt8) (seqNum : UInt64) : Bytes :=
  preamble ++ [msgType, flags] ++ putUint64 seqNum

theorem responseLength (msgType flags : UInt8) (seqNum : UInt64) :
    (response msgType flags seqNum).length = responseSize := by
  rw [response, preambleBytes]
  simp [putUint64Length, responseSize]

@[simp] theorem responseType (msgType flags : UInt8) (seqNum : UInt64) :
    byteAt (response msgType flags seqNum) 6 = msgType := by
  rw [response, preambleBytes]
  rfl

@[simp] theorem responseFlags (msgType flags : UInt8) (seqNum : UInt64) :
    byteAt (response msgType flags seqNum) 7 = flags := by
  rw [response, preambleBytes]
  rfl

@[simp] theorem responseSeq (msgType flags : UInt8) (seqNum : UInt64) :
    uint64 (slice (response msgType flags seqNum) 8 16) = seqNum := by
  have len : (preamble ++ [msgType, flags]).length = 8 := by simp [preambleBytes]
  have tail : slice ((preamble ++ [msgType, flags]) ++ putUint64 seqNum) (8 + 0) (8 + 8) =
      slice (putUint64 seqNum) 0 8 := sliceRight len
  rw [response, tail, sliceAll (putUint64Length seqNum), uint64Put]

end RetryEndpoint.Wire
