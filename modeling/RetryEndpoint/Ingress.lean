import RetryEndpoint.Cache
import RetryEndpoint.Wire

/-! The frame handlers of ingress.go and the processor of pipeline.go that calls
them. A handler decodes by class, counts, and makes at most one Store call; what
it did is a list of events in order. Debug lines are left out. -/
namespace RetryEndpoint.Ingress
open BigEndian Wire Cache

inductive Drop where | decodeError | teeDecapError | truncated | queueFull deriving DecidableEq, Repr

/- A source label; none is the empty string. An address prints as one text, so
the label is the address. -/
abbrev Label := Option Bytes

inductive Form where | encap | raw deriving DecidableEq, Repr

inductive Event where
  | frameDropped (reason : Drop)
  | teeDatagram (form : Form)
  | frameReceived
  | store (key value : Bytes) (ttl : Int) (failed : Bool)
  | cacheError
  | frameCached (src : Label)
  deriving DecidableEq, Repr

structure Worker where
  cache : Store
  ttls : TTLConfig
  queueDepth : Int
  procs : Int

def Worker.cacheFlow (w : Worker) (decoded : Option Flow) (ttl : Int) (raw : Bytes) (src : Label)
    (b : Backend) (fault : Fault) (now : Int) : List Event × Backend :=
  match decoded with
  | none => ([.frameDropped .decodeError], b)
  | some f =>
    -- An unstamped frame has no place in any flow.
    if f.seqNum = 0 then ([.frameReceived], b)
    else
      let key := flowKey f.hashKey f.seqNum
      let (failed, b) := w.cache.store b fault now key raw ttl
      ([.frameReceived, .store key raw ttl failed, if failed then .cacheError else .frameCached src], b)

inductive BundleError where | tooShort | badMagic | badVer | truncated deriving DecidableEq, Repr

structure BundleHeader where
  hashKey : UInt64
  seqNum : UInt64
  members : Nat
  deriving DecidableEq, Repr

def bundleKey (raw : Bytes) : Except BundleError BundleHeader :=
  if raw.length < bundleHeaderSize then .error .tooShort
  else if uint32 (slice raw 0 4) ≠ magicBSV then .error .badMagic
  else if byteAt raw 6 ≠ frameVerV8 then .error .badVer
  else if raw.length - bundleHeaderSize < (uint32 (slice raw 62 66)).toNat then .error .truncated
  else .ok ⟨uint64 (slice raw 40 48), uint64 (slice raw 48 56), (uint16 (slice raw 60 62)).toNat⟩

def bundleFlow (raw : Bytes) : Option Flow := match bundleKey raw with
  | .error _ => none
  | .ok h => some ⟨h.hashKey, h.seqNum⟩

def fragmentTTL (ttls : TTLConfig) (origFrameVer : UInt8) : Int :=
  if origFrameVer = frameVerV4 then ttls.block
  else if origFrameVer = frameVerV5 then ttls.subtree
  else if origFrameVer = frameVerV6 then ttls.anchor
  else if origFrameVer = frameVerV9 then ttls.beef
  else ttls.tx

section Handlers
variable (lib : FrameLib) (w : Worker) (raw : Bytes) (src : Label) (b : Backend) (fault : Fault)
  (now : Int)

def Worker.processBlockFrame : List Event × Backend :=
  w.cacheFlow (lib.decodeBlock raw) w.ttls.block raw src b fault now

def Worker.processSubtreeDataFrame : List Event × Backend :=
  w.cacheFlow (lib.decodeSubtreeData raw) w.ttls.subtree raw src b fault now

def Worker.processAnchorFrame : List Event × Backend :=
  w.cacheFlow (lib.decodeAnchor raw) w.ttls.anchor raw src b fault now

def Worker.processBundleFrame : List Event × Backend :=
  w.cacheFlow (bundleFlow raw) w.ttls.tx raw src b fault now

def Worker.processBEEFFrame : List Event × Backend :=
  w.cacheFlow (lib.decodeBEEF raw) w.ttls.beef raw src b fault now

/- The lifetime follows the class that was cut into fragments. -/
def Worker.processFragmentFrame : List Event × Backend :=
  match lib.decodeFragment raw with
  | none => w.cacheFlow none w.ttls.tx raw src b fault now
  | some ff => w.cacheFlow (some ⟨ff.hashKey, ff.seqNum⟩) (fragmentTTL w.ttls ff.origFrameVer) raw src
      b fault now

def Worker.processFrame : List Event × Backend :=
  if lib.isBlockFrame raw then w.processBlockFrame lib raw src b fault now
  else if lib.isSubtreeDataFrame raw then w.processSubtreeDataFrame lib raw src b fault now
  else if lib.isAnchorFrame raw then w.processAnchorFrame lib raw src b fault now
  else if lib.isBundle raw then w.processBundleFrame raw src b fault now
  else if lib.isBEEFFrame raw then w.processBEEFFrame lib raw src b fault now
  else if lib.isFragment raw then w.processFragmentFrame lib raw src b fault now
  else w.cacheFlow (lib.decode raw) w.ttls.tx raw src b fault now

end Handlers

def decodeClass (lib : FrameLib) (raw : Bytes) : Option Flow :=
  if lib.isBlockFrame raw then lib.decodeBlock raw
  else if lib.isSubtreeDataFrame raw then lib.decodeSubtreeData raw
  else if lib.isAnchorFrame raw then lib.decodeAnchor raw
  else if lib.isBundle raw then bundleFlow raw
  else if lib.isBEEFFrame raw then lib.decodeBEEF raw
  else if lib.isFragment raw then (lib.decodeFragment raw).map (fun ff => ⟨ff.hashKey, ff.seqNum⟩)
  else lib.decode raw

def classTTL (lib : FrameLib) (ttls : TTLConfig) (raw : Bytes) : Int :=
  if lib.isBlockFrame raw then ttls.block
  else if lib.isSubtreeDataFrame raw then ttls.subtree
  else if lib.isAnchorFrame raw then ttls.anchor
  else if lib.isBundle raw then ttls.tx
  else if lib.isBEEFFrame raw then ttls.beef
  else if lib.isFragment raw then match lib.decodeFragment raw with
    | none => ttls.tx
    | some ff => fragmentTTL ttls ff.origFrameVer
  else ttls.tx

theorem processFrameByClass (lib : FrameLib) (w : Worker) (raw : Bytes) (src : Label) (b : Backend)
    (fault : Fault) (now : Int) :
    w.processFrame lib raw src b fault now =
      w.cacheFlow (decodeClass lib raw) (classTTL lib w.ttls raw) raw src b fault now := by
  unfold Worker.processFrame decodeClass classTTL
  split
  · rfl
  split
  · rfl
  split
  · rfl
  split
  · rfl
  split
  · rfl
  split
  · unfold Worker.processFragmentFrame
    cases lib.decodeFragment raw with
    | none => rfl
    | some ff => rfl
  · rfl

theorem processFrameCalls {lib : FrameLib} {w : Worker} {raw : Bytes} {src : Label} {b : Backend}
    {fault : Fault} {now ttl : Int} {key value : Bytes} {failed : Bool}
    (mem : .store key value ttl failed ∈ (w.processFrame lib raw src b fault now).1) :
    value = raw ∧ ttl = classTTL lib w.ttls raw ∧
      ∃ f, decodeClass lib raw = some f ∧ f.seqNum ≠ 0 ∧ key = flowKey f.hashKey f.seqNum := by
  rw [processFrameByClass] at mem
  unfold Worker.cacheFlow at mem
  split at mem
  · simp at mem
  · rename_i f decoded
    split at mem
    · simp at mem
    · rename_i stamped
      have call : Event.store key value ttl failed = .store (flowKey f.hashKey f.seqNum) raw
          (classTTL lib w.ttls raw) (w.cache.store b fault now (flowKey f.hashKey f.seqNum) raw
            (classTTL lib w.ttls raw)).1 := by
        simp only [List.mem_cons, reduceCtorEq, List.not_mem_nil, or_false, false_or] at mem
        rcases mem with same | other
        · exact same
        · split at other <;> cases other
      cases call
      exact ⟨rfl, rfl, f, decoded, stamped, rfl⟩

theorem bundleFlowKeyAt {raw : Bytes} {f : Flow} (ok : bundleFlow raw = some f) :
    KeyAt raw f.hashKey f.seqNum := by
  unfold bundleFlow at ok
  split at ok <;> try contradiction
  rename_i h read
  cases Option.some.inj ok
  unfold bundleKey at read
  split at read <;> try contradiction
  rename_i long
  split at read <;> try contradiction
  split at read <;> try contradiction
  split at read <;> try contradiction
  cases read
  exact ⟨Nat.le_trans (by decide) (Nat.not_lt.mp long), rfl, rfl⟩

theorem decodeClassKeyAt {lib : FrameLib} (reads : lib.ReadsFlowKey) {raw : Bytes} {f : Flow}
    (ok : decodeClass lib raw = some f) : KeyAt raw f.hashKey f.seqNum := by
  unfold decodeClass at ok
  split at ok
  · exact reads.decodeBlock raw f ok
  split at ok
  · exact reads.decodeSubtreeData raw f ok
  split at ok
  · exact reads.decodeAnchor raw f ok
  split at ok
  · exact bundleFlowKeyAt ok
  split at ok
  · exact reads.decodeBEEF raw f ok
  split at ok
  · obtain ⟨ff, read, rfl⟩ := Option.map_eq_some_iff.mp ok
    exact reads.decodeFragment raw ff read
  · exact reads.decode raw f ok

structure Processor where
  tee : Bool
  lastSrc : Bytes
  src : Label
  deriving DecidableEq, Repr

def Processor.new (tee : Bool) : Processor := ⟨tee, List.replicate 16 0, none⟩

def Processor.label (p : Processor) (a : Bytes) : Processor × Label :=
  let p := if p.src = none ∨ a ≠ p.lastSrc then { p with lastSrc := a, src := some a } else p
  (p, p.src)

/- A received datagram: its bytes, and its source when it is an IPv6 one. -/
structure Datagram where
  bytes : Bytes
  source : Option Bytes
  deriving DecidableEq, Repr

def Processor.labelSource (p : Processor) : Option Bytes → Processor × Label
  | some a => p.label a
  | none => (p, none)

def Processor.handle (lib : FrameLib) (w : Worker) (p : Processor) (d : Datagram) (b : Backend)
    (fault : Fault) (now : Int) : List Event × Backend × Processor :=
  if p.tee ∧ lib.isEncap d.bytes then
    match lib.decap d.bytes with
    | none => ([.frameDropped .teeDecapError], b, p)
    | some (src, payload) =>
      let (p, label) := p.label src
      let (events, b) := w.processFrame lib payload label b fault now
      (.teeDatagram .encap :: events, b, p)
  else
    let (p, label) := p.labelSource d.source
    let (events, b) := w.processFrame lib d.bytes label b fault now
    (if p.tee then .teeDatagram .raw :: events else events, b, p)

def carried (lib : FrameLib) (tee : Bool) (pkt : Bytes) : Option Bytes :=
  if tee ∧ lib.isEncap pkt then (lib.decap pkt).map Prod.snd else some pkt

def frameStore (lib : FrameLib) (raw : Bytes) : Option (Bytes × Bytes) :=
  match decodeClass lib raw with
  | none => none
  | some f => if f.seqNum = 0 then none else some (flowKey f.hashKey f.seqNum, raw)

def datagramStore (lib : FrameLib) (tee : Bool) (pkt : Bytes) : Option (Bytes × Bytes) :=
  (carried lib tee pkt).bind (frameStore lib)

def Event.stored : Event → Option (Bytes × Bytes)
  | .store key value _ _ => some (key, value)
  | _ => none

def storesOf (events : List Event) : List (Bytes × Bytes) := events.filterMap Event.stored

inductive Stored (w : Worker) (fault : Fault) (now : Int) (b : Backend) :
    Option (Bytes × Bytes) → Backend → Prop where
  | uncalled : Stored w fault now b none b
  | lost {call} (failed : fault = .lost) : Stored w fault now b call b
  | wrote {key value} (ttl : Int) :
      Stored w fault now b (some (key, value)) (ExpiringStore.put b now (w.cache.key key) value ttl)

theorem Stored.entry {w : Worker} {fault : Fault} {now : Int} {b b' : Backend}
    {call : Option (Bytes × Bytes)} (h : Stored w fault now b call b') (landed : fault ≠ .lost)
    (key : Bytes) :
    (∃ e, call = some (key, e.value) ∧ b' (w.cache.key key) = some e) ∨
      call.map Prod.fst ≠ some key ∧ b' (w.cache.key key) = b (w.cache.key key) := by
  cases h with
  | uncalled => exact .inr ⟨nofun, rfl⟩
  | lost failed => exact absurd failed landed
  | @wrote k value ttl =>
    by_cases same : key = k
    · subst k
      exact .inl ⟨_, rfl, ExpiringStore.putSame ..⟩
    · refine .inr ⟨?_, ExpiringStore.putOther _ _ _ _ (fun eq => same (keyInj eq))⟩
      intro eq
      exact same (Option.some.inj eq).symm

theorem processFrameStores (lib : FrameLib) (w : Worker) (raw : Bytes) (src : Label) (b : Backend)
    (fault : Fault) (now : Int) :
    storesOf (w.processFrame lib raw src b fault now).1 = (frameStore lib raw).toList ∧
      Stored w fault now b (frameStore lib raw) (w.processFrame lib raw src b fault now).2 := by
  rw [processFrameByClass, frameStore]
  cases decodeClass lib raw with
  | none => exact ⟨rfl, .uncalled⟩
  | some f =>
    by_cases unstamped : f.seqNum = 0
    · simp only [Worker.cacheFlow, if_pos unstamped]
      exact ⟨rfl, .uncalled⟩
    · simp only [Worker.cacheFlow, if_neg unstamped, Store.store]
      cases fault with
      | none => exact ⟨rfl, .wrote _⟩
      | lost => exact ⟨rfl, .lost rfl⟩
      | landed => exact ⟨rfl, .wrote _⟩

theorem labelTee (p : Processor) (a : Bytes) : (p.label a).1.tee = p.tee := by
  unfold Processor.label
  dsimp only
  split <;> rfl

theorem labelSourceTee (p : Processor) (source : Option Bytes) :
    (p.labelSource source).1.tee = p.tee := by
  cases source with
  | none => rfl
  | some a => exact labelTee p a

theorem handleStores (lib : FrameLib) (w : Worker) (p : Processor) (d : Datagram) (b : Backend)
    (fault : Fault) (now : Int) :
    storesOf (p.handle lib w d b fault now).1 = (datagramStore lib p.tee d.bytes).toList ∧
      Stored w fault now b (datagramStore lib p.tee d.bytes) (p.handle lib w d b fault now).2.1 ∧
      (p.handle lib w d b fault now).2.2.tee = p.tee := by
  unfold Processor.handle datagramStore carried
  split
  · cases lib.decap d.bytes with
    | none => exact ⟨rfl, .uncalled, rfl⟩
    | some envelope =>
      obtain ⟨src, payload⟩ := envelope
      obtain ⟨stores, stored⟩ := processFrameStores lib w payload (p.label src).2 b fault now
      exact ⟨stores, stored, labelTee p src⟩
  · obtain ⟨stores, stored⟩ :=
      processFrameStores lib w d.bytes (p.labelSource d.source).2 b fault now
    refine ⟨?_, stored, labelSourceTee p d.source⟩
    dsimp only
    split
    · exact stores
    · exact stores

theorem handleBackend (lib : FrameLib) (w : Worker) (p : Processor) (d : Datagram) (b : Backend)
    (fault : Fault) (now : Int) :
    (p.handle lib w d b fault now).2.1 = match datagramStore lib p.tee d.bytes with
      | none => b
      | some (key, value) => (w.cache.store b fault now key value (classTTL lib w.ttls value)).2 := by
  have frame : ∀ raw src, (w.processFrame lib raw src b fault now).2 = match frameStore lib raw with
      | none => b
      | some (key, value) => (w.cache.store b fault now key value (classTTL lib w.ttls value)).2 := by
    intro raw src
    rw [processFrameByClass, frameStore]
    cases decodeClass lib raw with
    | none => rfl
    | some f => by_cases unstamped : f.seqNum = 0 <;> simp only [Worker.cacheFlow, unstamped, if_true, if_false]
  unfold Processor.handle datagramStore carried
  split
  · cases lib.decap d.bytes with
    | none => rfl
    | some envelope => exact frame envelope.2 _
  · exact frame d.bytes _

theorem frameStoreKey {lib : FrameLib} (reads : lib.ReadsFlowKey) {raw key value : Bytes}
    (call : frameStore lib raw = some (key, value)) :
    56 ≤ value.length ∧ key = keyBytes value ∧ value = raw := by
  unfold frameStore at call
  split at call <;> try contradiction
  rename_i f decoded
  split at call <;> try contradiction
  cases Option.some.inj call
  have at' := decodeClassKeyAt reads decoded
  exact ⟨at'.long, at'.flowKey, rfl⟩

end RetryEndpoint.Ingress
