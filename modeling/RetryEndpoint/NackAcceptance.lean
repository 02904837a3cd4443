import RetryEndpoint.NackServer

/-! Which datagrams reach the rate limiter. The grammar of a NACK is checked in two
places: the read loop of Run compares the length, and processNACK the rest, on what
the read loop has copied. The buffer of the read is as long as a NACK, so a longer
datagram has lost its tail before its length is looked at. -/
namespace RetryEndpoint.NackAcceptance
open BigEndian Wire Cache Retransmit RateLimit NackServer

def accepted (datagram : Bytes) : Option Nack := do
  let read ← readNACK datagram
  let n := parseNACK read
  if validateNACK read = .ok () ∧ n.endSeq = n.startSeq then some n else none

section Arrival
variable {β : Type} (rt : Runtime β) (lib : FrameLib) (s : Server) (env : Env s.retransmit)

def limited (n : Nack) (src : Option UDPAddr) (st : State β) : Option (List Effect × State β) := do
  let (denied, limiter) ← st.limiter.allow rt (sourceIP src) n.hashKey n.startSeq env.ipNow env.seqNow
  match denied with
  | some level =>
    let fx := if level = .sequence then s.throttle src throttleBucketSequence n.startSeq else []
    some (fx, { st with limiter := limiter })
  | none =>
    let (ok, limiter) ← limiter.allowChain rt (sourceIP src) n.hashKey env.chainNow
    let st := { st with limiter := limiter }
    if ok then some (s.lookup rt lib env n src st)
    else some (s.throttle src throttleBucketChain n.startSeq, st)

def arrive (datagram : Bytes) (src : Option UDPAddr) (st : State β) : Option (List Effect × State β) :=
  match readNACK datagram with
  | none => some ([], st)
  | some read => s.processNACK rt lib env read src st

variable {rt lib s env}

theorem arriveAccepted {datagram : Bytes} {n : Nack} {src : Option UDPAddr} {st : State β}
    (ok : accepted datagram = some n) :
    arrive rt lib s env datagram src st = limited rt lib s env n src st := by
  unfold accepted at ok
  obtain ⟨read, full, ok⟩ := Option.bind_eq_some_iff.mp ok
  dsimp only at ok
  split at ok
  · rename_i good
    cases Option.some.inj ok
    simp only [arrive, full, Server.processNACK, good.1, good.2, ne_eq, not_true_eq_false, if_false]
    rfl
  · cases ok

theorem arriveRefused {datagram : Bytes} {src : Option UDPAddr} {st : State β}
    (refused : accepted datagram = none) : arrive rt lib s env datagram src st = some ([], st) := by
  unfold arrive
  split
  · rfl
  · rename_i read full
    simp only [accepted, full, bind, Option.bind_some] at refused
    split at refused
    · cases refused
    · rename_i bad
      unfold Server.processNACK
      split
      · rfl
      · rename_i valid
        dsimp only
        rw [if_pos (fun single => bad ⟨valid, single⟩)]

end Arrival

structure Exact (d : Bytes) : Prop where
  size : d.length = 64
  magic : slice d 0 4 = [0xE3, 0xE1, 0xF3, 0xE8]
  msgType : byteAt d 6 = 0x10
  single : slice d 16 24 = slice d 24 32

def ownFields (d : Bytes) : Nack :=
  ⟨byteAt d 7 &&& 0x01 != 0, uint64 (slice d 8 16), uint64 (slice d 16 24), uint64 (slice d 24 32),
    slice d 32 64⟩

structure Exactly (d : Bytes) : Prop where
  only : ∀ n, accepted d = some n → Exact d
  every : Exact d → accepted d = some (ownFields d)

theorem magicRead {raw : Bytes} (len : raw.length = 4) :
    uint32 raw = magicBSV ↔ raw = [0xE3, 0xE1, 0xF3, 0xE8] := by
  have bytes : putUint32 magicBSV = [0xE3, 0xE1, 0xF3, 0xE8] := by decide
  constructor
  · intro same
    rw [← putUint32Read len, same, bytes]
  · intro same
    rw [same, ← bytes, uint32Put]

theorem uint64Inj {xs ys : Bytes} (left : xs.length = 8) (right : ys.length = 8) :
    uint64 xs = uint64 ys ↔ xs = ys := by
  constructor
  · intro same
    rw [← putUint64Read left, ← putUint64Read right, same]
  · intro same
    rw [same]

theorem validExact {d : Bytes} (len : d.length = 64) :
    (validateNACK d = .ok () ∧ (parseNACK d).endSeq = (parseNACK d).startSeq) ↔ Exact d := by
  have long : ¬ d.length < nackSize := by rw [len, nackSize]; decide
  have head : (slice d 0 4).length = 4 := sliceLength (by omega)
  have start : (slice d 16 24).length = 8 := sliceLength (by omega)
  have stop : (slice d 24 32).length = 8 := sliceLength (by omega)
  have magic := magicRead head
  have single := uint64Inj stop start
  constructor
  · rintro ⟨valid, same⟩
    unfold validateNACK at valid
    rw [if_neg long] at valid
    split at valid
    · cases valid
    · rename_i isMagic
      split at valid
      · cases valid
      · rename_i isNACK
        exact ⟨len, magic.mp (not_not.mp isMagic), not_not.mp isNACK, (single.mp same).symm⟩
  · intro grammar
    have kind : byteAt d 6 = msgTypeNACK := grammar.msgType
    refine ⟨?_, single.mpr grammar.single.symm⟩
    simp [validateNACK, long, magic.mpr grammar.magic, kind]

theorem readWhole {d : Bytes} (len : d.length = 64) : readNACK d = some d := by
  have whole : d.take nackSize = d := List.take_of_length_le (by rw [len]; decide)
  simp only [readNACK, whole]
  exact if_pos len

theorem readCut {d : Bytes} (long : 64 < d.length) : readNACK d = some (d.take nackSize) := by
  have full : (d.take nackSize).length = nackSize := by
    rw [List.length_take, nackSize]
    omega
  simp only [readNACK, full, if_true]

theorem readShort {d : Bytes} (short : d.length < 64) : readNACK d = none := by
  have cut : (d.take nackSize).length ≠ nackSize := by
    rw [List.length_take, nackSize]
    omega
  simp only [readNACK, if_neg cut]

theorem acceptedRead {d read : Bytes} (full : readNACK d = some read) (len : read.length = 64) (n : Nack) :
    accepted d = some n ↔ Exact read ∧ n = parseNACK read := by
  simp only [accepted, full, bind, Option.bind_some, validExact len, Option.ite_none_right_eq_some,
    Option.some.injEq]
  rw [eq_comm (a := n)]

/-- Run limits and looks up what the grammar takes for a NACK, as what it is, and
leaves the rest alone, for every datagram of at most sixty-four bytes and every longer
one whose first sixty-four are no NACK; for the other longer ones it does not. -/
theorem acceptsExactly (d : Bytes) :
    (∀ (β : Type) (rt : Runtime β) (lib : FrameLib) (s : Server) (env : Env s.retransmit)
      (src : Option UDPAddr) (st : State β),
      (accepted d = none → arrive rt lib s env d src st = some ([], st)) ∧
      ∀ n, accepted d = some n → arrive rt lib s env d src st = limited rt lib s env n src st) ∧
    (Exactly d ↔ d.length ≤ 64 ∨ ¬ Exact (d.take 64)) := by
  refine ⟨fun β rt lib s env src st => ⟨arriveRefused, fun n => arriveAccepted⟩, ?_⟩
  constructor
  · intro exactly
    rcases Nat.lt_or_ge 64 d.length with long | fits
    · refine .inr ?_
      intro head
      have taken : accepted d = some (parseNACK (d.take nackSize)) :=
        (acceptedRead (readCut long) head.size _).mpr ⟨head, rfl⟩
      have size := (exactly.only _ taken).size
      omega
    · exact .inl fits
  · intro holds
    rcases Nat.lt_trichotomy d.length 64 with short | len | long
    · have refused : accepted d = none := by simp [accepted, readShort short]
      constructor
      · intro n ok
        rw [refused] at ok
        cases ok
      · intro grammar
        have size := grammar.size
        omega
    · have both := acceptedRead (readWhole len) len
      exact ⟨fun n ok => ((both n).mp ok).1, fun grammar => (both _).mpr ⟨grammar, rfl⟩⟩
    · have head : ¬ Exact (d.take 64) := holds.resolve_left (by omega)
      have full : (d.take nackSize).length = 64 := by
        rw [List.length_take, nackSize]
        omega
      constructor
      · intro n ok
        exact absurd ((acceptedRead (readCut long) full n).mp ok).1 head
      · intro grammar
        have size := grammar.size
        omega

/- A NACK with one byte more: taken for the NACK it begins with. -/
theorem acceptsLonger : (ask 0 ++ [0]).length = 65 ∧
    accepted (ask 0 ++ [0]) = some ⟨false, 7, 9, 9, List.replicate 32 0⟩ ∧ ¬ Exactly (ask 0 ++ [0]) := by
  have size : (ask 0 ++ [0]).length = 65 := by decide
  have taken : accepted (ask 0 ++ [0]) = some ⟨false, 7, 9, 9, List.replicate 32 0⟩ := by decide
  refine ⟨size, taken, ?_⟩
  intro exactly
  have sixtyFour := (exactly.only _ taken).size
  omega

end RetryEndpoint.NackAcceptance
