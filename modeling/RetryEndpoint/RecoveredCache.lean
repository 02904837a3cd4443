import RetryEndpoint.FetchedFrame
import RetryEndpoint.FrameClass

/-! A recovered frame against the same frame received by the ingress: whether the
fetch takes it at all, and whether it goes into the cache as the ingress would
have put it there. The two were written apart, one by class and one by a length
and a byte. -/
namespace RetryEndpoint.RecoveredCache
open BigEndian Wire Cache Ingress FrameClass Proxy Retransmit

variable {lib : FrameLib} {w : Worker} {cfg : Config} {raw key value : Bytes} {src : Label}
  {b b' : Backend} {fault fault' : Fault} {now now' ttl : Int} {failed : Bool}

theorem storeCalls (cfg : Config) (long : headerSize ≤ raw.length) (b : Backend) (fault : Fault) (now : Int) :
    ∃ failed, (cfg.store raw b fault now).1 =
      [.store (keyBytes raw) raw (ttlFor cfg.ttls (byteAt raw 6)) failed] := by
  have reach : slice raw 40 48 ++ slice raw 48 56 = keyBytes raw :=
    sliceAppendSlice raw (by decide) (by decide)
  simp only [Config.store, Config.storeCall, if_neg (Nat.not_lt.mpr long), reach]
  exact ⟨_, rfl⟩

theorem storeKeeps (cfg : Config) (long : headerSize ≤ raw.length) (b : Backend) (now : Int) :
    (cfg.store raw b .none now).1 =
      [.store (keyBytes raw) raw (ttlFor cfg.ttls (byteAt raw 6)) false] ∧
    ∀ later, later < now + ttlFor cfg.ttls (byteAt raw 6) →
      cfg.cache.retrieve (cfg.store raw b .none now).2 false later (keyBytes raw) = .ok (some raw) := by
  have reach : slice raw 40 48 ++ slice raw 48 56 = keyBytes raw :=
    sliceAppendSlice raw (by decide) (by decide)
  simp only [Config.store, Config.storeCall, if_neg (Nat.not_lt.mpr long), reach, Store.store]
  refine ⟨trivial, ?_⟩
  intro later early
  simp only [Store.retrieve, Bool.false_eq_true, if_false, ExpiringStore.read, ExpiringStore.putSame, if_pos early]

theorem ttlForStored {f : Flow} {ttls : TTLConfig} (reads : ReadsClass lib)
    (ok : decodeClass lib raw = some f) :
    ttlFor ttls (byteAt raw 6) = classTTL lib ttls raw ↔
      ∀ ff, byteAt raw 6 = frameVerV3 → lib.decodeFragment raw = some ff →
        fragmentTTL ttls ff.origFrameVer = ttls.tx := by
  have whole : byteAt raw 6 ≠ frameVerV3 → ∀ ff, byteAt raw 6 = frameVerV3 →
      lib.decodeFragment raw = some ff → fragmentTTL ttls ff.origFrameVer = ttls.tx :=
    fun other _ ver => absurd ver other
  cases storedAs reads ok with
  | block ver read life | subtreeData ver read life | anchor ver read life | bundle ver test read life
  | beef ver test read life =>
    rw [life]
    refine iff_of_true ?_ (whole (by rw [ver]; decide))
    rw [ver]
    rfl
  | base ver read life =>
    rw [life]
    rcases baseVers ver with ver | ver | ver <;>
      exact iff_of_true (by rw [ver]; rfl) (whole (by rw [ver]; decide))
  | @fragment ff ver read flow life =>
    rw [life, ver]
    constructor
    · intro same ff' _ read'
      rw [read] at read'
      cases Option.some.inj read'
      exact same.symm
    · intro all
      exact (all ff rfl read).symm

/-- A frame of at least ninety-two bytes that the ingress would store goes into the
cache by Client.store with the same key, value and lifetime, exactly if it is no
fragment or the class it was cut from lives as long as a transaction. -/
theorem storesAlike (reads : ReadsClass lib) (keys : lib.ReadsFlowKey) (ttls : cfg.ttls = w.ttls)
    (long : headerSize ≤ raw.length)
    (mem : .store key value ttl failed ∈ (w.processFrame lib raw src b fault now).1) :
    (∃ failed', (cfg.store raw b' fault' now').1 = [.store key value ttl failed']) ↔
      ∀ ff, byteAt raw 6 = frameVerV3 → lib.decodeFragment raw = some ff →
        fragmentTTL w.ttls ff.origFrameVer = w.ttls.tx := by
  obtain ⟨rfl, rfl, f, decoded, stamped, rfl⟩ := processFrameCalls mem
  obtain ⟨answer, calls⟩ := storeCalls cfg long b' fault' now'
  rw [calls, ttls, (decodeClassKeyAt keys decoded).flowKey, ← ttlForStored reads decoded]
  constructor
  · rintro ⟨failed', same⟩
    simp only [List.cons.injEq, Effect.store.injEq] at same
    exact same.1.2.2.1
  · intro same
    exact ⟨answer, by rw [same]⟩

def lifetimes : TTLConfig := ⟨60, 600, 300, 120, 60⟩

def keeper : Worker := ⟨⟨[0x66]⟩, lifetimes, 1, 1⟩

def client : Config := ⟨["peer:9300"], 300, 1, 60, 4, 1024, none, ⟨[0x66]⟩, oneSocket, lifetimes, true, true⟩

theorem storesAlikeBlock :
    .store (flowKey 7 9) (frameOf 4 0 7 9) 600 false ∈
        (keeper.processFrame byVersion (frameOf 4 0 7 9) none ExpiringStore.empty .none 0).1 ∧
      ∃ failed, (client.store (frameOf 4 0 7 9) ExpiringStore.empty .none 0).1 =
        [.store (flowKey 7 9) (frameOf 4 0 7 9) 600 failed] := by
  have mem : .store (flowKey 7 9) (frameOf 4 0 7 9) 600 false ∈
      (keeper.processFrame byVersion (frameOf 4 0 7 9) none ExpiringStore.empty .none 0).1 := by decide
  refine ⟨mem, (storesAlike byVersionReadsClass byVersionReadsFlowKey rfl (by decide) mem).mpr ?_⟩
  intro ff ver
  exact absurd ver (by decide)

/- A fragment of a block frame lives ten minutes from the ingress and one from the
proxy. -/
theorem storesFragmentShorter :
    (keeper.processFrame byVersion (frameOf 3 4 7 9) none ExpiringStore.empty .none 0).1 =
        [.frameReceived, .store (flowKey 7 9) (frameOf 3 4 7 9) 600 false, .frameCached none] ∧
      (client.store (frameOf 3 4 7 9) ExpiringStore.empty .none 0).1 =
        [.store (flowKey 7 9) (frameOf 3 4 7 9) 60 false] := by
  decide

def sentOut (arrivals : List Bytes) : Attempt := ⟨true, true, true, arrivals⟩

theorem frameReturns {f : Flow} (reads : ReadsClass lib) (checks : ChecksMagic lib)
    (ok : decodeClass lib raw = some f) (long : headerSize ≤ raw.length) : isFrameReturn raw = true := by
  have magic := storedMagic reads checks ok
  have ver := (storedVer reads ok).2
  have noAck : byteAt raw 6 ≠ msgTypeACK := by
    intro same
    rw [same] at ver
    exact absurd ver (by decide)
  have noMiss : byteAt raw 6 ≠ msgTypeMISS := by
    intro same
    rw [same] at ver
    exact absurd ver (by decide)
  simp [isFrameReturn, long, magic, noAck, noMiss]

/-- A frame the ingress stores, first to arrive and short enough for a datagram, is
returned by Client.fetch and taken by Client.store exactly if it is at least
ninety-two bytes long. -/
theorem recoverable (reads : ReadsClass lib) (checks : ChecksMagic lib)
    (mem : .store key value ttl failed ∈ (w.processFrame lib raw src b fault now).1)
    (fits : raw.length ≤ 65535) (upstream : String) (j : Job) (later : List Bytes) :
    ((fetch upstream j (sentOut (raw :: later))).2 = some raw ∧
        ∃ key' ttl', (cfg.store raw b' .none now').1 = [.store key' raw ttl' false]) ↔
      headerSize ≤ raw.length := by
  obtain ⟨rfl, -, f, decoded, -, -⟩ := processFrameCalls mem
  constructor
  · rintro ⟨got, -⟩
    have frame := (FetchedFrame.fetchLoopReturns.mp got).2
    simp only [isFrameReturn, Bool.and_eq_true, decide_eq_true_eq] at frame
    exact frame.1.1.1
  · intro long
    have whole : value.take fetchBuffer = value :=
      List.take_of_length_le (Nat.le_trans fits (by decide))
    refine ⟨?_, ?_⟩
    · change fetchLoop (value :: later) = some value
      simp only [fetchLoop, whole, frameReturns reads checks decoded long, if_true]
    · simp only [Config.store, Config.storeCall, if_neg (Nat.not_lt.mpr long), Store.store]
      exact ⟨_, _, rfl⟩

def gapJob : Job := ⟨7, 9, List.replicate 32 0, none⟩

theorem recoverableBlock :
    ((fetch "peer:9300" gapJob (sentOut [frameOf 4 0 7 9])).2 = some (frameOf 4 0 7 9) ∧
        ∃ key' ttl', (client.store (frameOf 4 0 7 9) ExpiringStore.empty .none 1).1 =
          [.store key' (frameOf 4 0 7 9) ttl' false]) ∧
      headerSize ≤ (frameOf 4 0 7 9).length := by
  have mem : .store (flowKey 7 9) (frameOf 4 0 7 9) 600 false ∈
      (keeper.processFrame byVersion (frameOf 4 0 7 9) none ExpiringStore.empty .none 0).1 := by decide
  have long : headerSize ≤ (frameOf 4 0 7 9).length := by decide
  exact ⟨(recoverable byVersionReadsClass byVersionChecksMagic mem (by decide) _ _ []).mpr long, long⟩

/- A bundle that is all header: the ingress stores it, the fetch reads past it and
the store calls it short. -/
theorem bundleUnrecoverable :
    (keeper.processFrame byVersion (emptyBundle 0 7 9) none ExpiringStore.empty .none 0).1 =
        [.frameReceived, .store (flowKey 7 9) (emptyBundle 0 7 9) 60 false, .frameCached none] ∧
      (fetch "peer:9300" gapJob (sentOut [emptyBundle 0 7 9])).2 = none ∧
      (client.store (emptyBundle 0 7 9) ExpiringStore.empty .none 1).1 = [] := by
  decide

end RetryEndpoint.RecoveredCache
