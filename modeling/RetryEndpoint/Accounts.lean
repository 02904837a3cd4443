import RetryEndpoint.Ingress
import RetryEndpoint.KeyedMap
import RetryEndpoint.Ledger

/-! What one processor adds to the counters of metrics.go. Every datagram ends one of five
ways, whatever was handled before it, and each way makes its own Add calls; the sums over a
run follow. The sums are of the calls the Recorder makes. What the SDK behind it keeps of
them, series by series and up to its limit of series, is not in this model. -/
namespace RetryEndpoint.Accounts
open BigEndian Wire Cache Ingress KeyedMap Ledger

structure SourceOption where
  source : Label
  deriving DecidableEq, Repr

inductive Instrument where
  | framesReceived
  | framesCached
  | cacheErrors
  | framesDropped (reason : Drop)
  | teeDatagrams (form : Form)
  | cacheStored (o : SourceOption)
  deriving DecidableEq, Repr

structure Recorder where
  adds : List (Instrument × Nat)
  cachedBySource : Option (Map Label SourceOption)

def Recorder.new : Recorder := ⟨[], none⟩

def Recorder.add (r : Recorder) (x : Instrument) (n : Nat) : Recorder := { r with adds := (x, n) :: r.adds }

/- The options are kept in a map that is copied for every new source. Nobody writes
it between this processor's two looks, so the second finds what the first did. -/
def Recorder.sourceOption (r : Recorder) (source : Label) : SourceOption × Recorder :=
  match r.cachedBySource.bind (·.lookup source) with
  | some o => (o, r)
  | none =>
    let o : SourceOption := ⟨source⟩
    let nm := (r.cachedBySource.map rebuild).getD ∅
    (o, { r with cachedBySource := some (nm.insert source o) })

inductive Call where
  | plain (x : Instrument)
  | stored (source : Label)
  deriving DecidableEq, Repr

def Recorder.call (r : Recorder) : Call → Recorder
  | .plain x => r.add x 1
  | .stored source =>
    let (o, r) := r.sourceOption source
    r.add (.cacheStored o) 1

def Recorder.frameCached (r : Recorder) (source : Label) : Recorder :=
  (r.call (.plain .framesCached)).call (.stored source)

def Recorder.preCreateSources (r : Recorder) (sources : List Label) : Recorder :=
  sources.foldl (fun r s => r.add (.cacheStored ⟨s⟩) 0) r

def callsOf : Event → List Call
  | .frameDropped reason => [.plain (.framesDropped reason)]
  | .teeDatagram form => [.plain (.teeDatagrams form)]
  | .frameReceived => [.plain .framesReceived]
  | .store _ _ _ _ => []
  | .cacheError => [.plain .cacheErrors]
  | .frameCached src => [.plain .framesCached, .stored src]

def Recorder.record (r : Recorder) (e : Event) : Recorder := (callsOf e).foldl Recorder.call r

def Recorder.added (r : Recorder) (x : Instrument) : Nat := balance r.adds x

def sourceOf : Instrument → Option Label
  | .cacheStored o => some o.source
  | _ => none

def isStored (x : Instrument) : Bool := (sourceOf x).isSome

def Recorder.sources (r : Recorder) : Finset Label := (r.adds.filterMap fun e => sourceOf e.1).toFinset

def Call.instrument : Call → Instrument
  | .plain x => x
  | .stored source => .cacheStored ⟨source⟩

def said (events : List Event) : List Instrument := events.flatMap fun e => (callsOf e).map Call.instrument

/- A datagram as the processor comes to it. Other processors write the backend in
between, so it is any. -/
structure Arrival where
  datagram : Datagram
  backend : Backend
  fault : Fault
  now : Int

structure Handled where
  arrival : Arrival
  events : List Event

structure State where
  processor : Processor
  recorder : Recorder
  handled : List Handled

def start (tee : Bool) (sources : List Label) : State :=
  ⟨Processor.new tee, Recorder.new.preCreateSources sources, []⟩

def step (lib : FrameLib) (w : Worker) (s : State) (a : Arrival) : State :=
  let (events, _, p) := s.processor.handle lib w a.datagram a.backend a.fault a.now
  ⟨p, events.foldl Recorder.record s.recorder, ⟨a, events⟩ :: s.handled⟩

def ownSource (lib : FrameLib) (tee : Bool) (d : Datagram) : Label :=
  if tee ∧ lib.isEncap d.bytes then (lib.decap d.bytes).map Prod.fst else d.source

def unstamped (lib : FrameLib) (tee : Bool) (d : Datagram) : Bool :=
  ((carried lib tee d.bytes).bind (decodeClass lib)).any fun f => f.seqNum = 0

def Event.stores (failed : Bool) : Event → Bool
  | .store _ _ _ f => f = failed
  | _ => false

def noted (lib : FrameLib) (tee : Bool) (pkt : Bytes) : List Event :=
  if tee then [.teeDatagram (if lib.isEncap pkt then .encap else .raw)] else []

inductive Did (lib : FrameLib) (tee : Bool) (a : Arrival) : List Event → Prop where
  | decapError (none' : carried lib tee a.datagram.bytes = none) :
      Did lib tee a [.frameDropped .teeDecapError]
  | decodeError {raw} (frame : carried lib tee a.datagram.bytes = some raw) (bad : decodeClass lib raw = none) :
      Did lib tee a (noted lib tee a.datagram.bytes ++ [.frameDropped .decodeError])
  | unstamped {raw f} (frame : carried lib tee a.datagram.bytes = some raw)
      (decoded : decodeClass lib raw = some f) (zero : f.seqNum = 0) :
      Did lib tee a (noted lib tee a.datagram.bytes ++ [.frameReceived])
  | stored {raw f} (key : Bytes) (ttl : Int) (frame : carried lib tee a.datagram.bytes = some raw)
      (decoded : decodeClass lib raw = some f) (stamped : f.seqNum ≠ 0) (answer : a.fault = .none) :
      Did lib tee a (noted lib tee a.datagram.bytes ++ [.frameReceived, .store key raw ttl false,
        .frameCached (ownSource lib tee a.datagram)])
  | failed {raw f} (key : Bytes) (ttl : Int) (frame : carried lib tee a.datagram.bytes = some raw)
      (decoded : decodeClass lib raw = some f) (stamped : f.seqNum ≠ 0) (answer : a.fault ≠ .none) :
      Did lib tee a (noted lib tee a.datagram.bytes ++ [.frameReceived, .store key raw ttl true, .cacheError])

section Labels
variable {p : Processor}

def Kept (p : Processor) : Prop := p.src = none ∨ p.src = some p.lastSrc

theorem labelled (h : Kept p) (a : Bytes) : (p.label a).2 = some a ∧ Kept (p.label a).1 := by
  unfold Processor.label
  dsimp only
  split
  · exact ⟨rfl, .inr rfl⟩
  · rename_i same
    obtain ⟨given, last⟩ := not_or.mp same
    rcases h with none | kept
    · exact absurd none given
    · rw [not_not.mp last]
      exact ⟨kept, .inr kept⟩

theorem sourceLabelled (h : Kept p) (source : Option Bytes) :
    (p.labelSource source).2 = source ∧ Kept (p.labelSource source).1 := by
  cases source with
  | none => exact ⟨rfl, h⟩
  | some a => exact labelled h a

end Labels

section Handling
variable {lib : FrameLib} {w : Worker} {tee : Bool} {p : Processor} {a : Arrival}

theorem frameDid {raw : Bytes} {src : Label} (frame : carried lib tee a.datagram.bytes = some raw)
    (own : src = ownSource lib tee a.datagram) :
    Did lib tee a (noted lib tee a.datagram.bytes ++
      (w.processFrame lib raw src a.backend a.fault a.now).1) := by
  rw [processFrameByClass]
  subst src
  unfold Worker.cacheFlow
  cases decoded : decodeClass lib raw with
  | none => exact .decodeError frame decoded
  | some f =>
    dsimp only
    split
    · rename_i zero
      exact .unstamped frame decoded zero
    · rename_i stamped
      unfold Store.store
      cases answer : a.fault with
      | none => exact .stored _ _ frame decoded stamped answer
      | lost | landed => exact .failed _ _ frame decoded stamped (by rw [answer]; decide)

theorem handleDid (kept : Kept p) (mine : p.tee = tee) :
    Did lib tee a (p.handle lib w a.datagram a.backend a.fault a.now).1 ∧
      Kept (p.handle lib w a.datagram a.backend a.fault a.now).2.2 ∧
      (p.handle lib w a.datagram a.backend a.fault a.now).2.2.tee = tee := by
  subst tee
  have same := (handleStores lib w p a.datagram a.backend a.fault a.now).2.2
  refine ⟨?_, ?_, same⟩
  · unfold Processor.handle
    split
    · rename_i enveloped
      cases envelope : lib.decap a.datagram.bytes with
      | none =>
        exact .decapError (by simp only [carried, if_pos enveloped, envelope, Option.map_none])
      | some content =>
        obtain ⟨src, payload⟩ := content
        have frame : carried lib p.tee a.datagram.bytes = some payload := by
          simp only [carried, if_pos enveloped, envelope, Option.map_some]
        have own : (p.label src).2 = ownSource lib p.tee a.datagram := by
          rw [(labelled kept src).1, ownSource, if_pos enveloped, envelope, Option.map_some]
        have did := frameDid (w := w) frame own
        rw [noted, if_pos enveloped.1, if_pos enveloped.2] at did
        exact did
    · rename_i bare
      have frame : carried lib p.tee a.datagram.bytes = some a.datagram.bytes := if_neg bare
      have own : (p.labelSource a.datagram.source).2 = ownSource lib p.tee a.datagram := by
        rw [(sourceLabelled kept _).1, ownSource, if_neg bare]
      have did := frameDid (w := w) frame own
      dsimp only
      rw [labelSourceTee]
      by_cases onTee : p.tee = true
      · have noEnvelope : ¬ lib.isEncap a.datagram.bytes = true := fun encap => bare ⟨onTee, encap⟩
        rw [noted, if_pos onTee, if_neg noEnvelope] at did
        rw [if_pos onTee]
        exact did
      · rw [noted, if_neg onTee] at did
        rw [if_neg onTee]
        exact did
  · unfold Processor.handle
    split
    · cases lib.decap a.datagram.bytes with
      | none => exact kept
      | some content => exact (labelled kept content.1).2
    · exact (sourceLabelled kept _).2

end Handling

section Recording
variable {r : Recorder}

def Sound (r : Recorder) : Prop :=
  ∀ m, r.cachedBySource = some m → ∀ s o, m.lookup s = some o → o.source = s

theorem sourceOptionOf (h : Sound r) (source : Label) :
    (r.sourceOption source).1 = ⟨source⟩ ∧ Sound (r.sourceOption source).2 ∧
      (r.sourceOption source).2.adds = r.adds := by
  unfold Recorder.sourceOption
  split
  · rename_i o found
    obtain ⟨m, there, here⟩ := Option.bind_eq_some_iff.mp found
    have own : o.source = source := h m there source o here
    exact ⟨by rw [← own], h, rfl⟩
  · refine ⟨rfl, ?_, rfl⟩
    intro m there s o found
    cases Option.some.inj there
    rcases lookupInserted found with ⟨rfl, rfl⟩ | ⟨-, held⟩
    · rfl
    · cases old : r.cachedBySource with
      | none => simp [old] at held
      | some m =>
        rw [old, Option.map_some, Option.getD_some, lookupRebuild] at held
        exact h m old s o held

theorem called (h : Sound r) (c : Call) : Sound (r.call c) ∧ (r.call c).adds = (c.instrument, 1) :: r.adds := by
  cases c with
  | plain x => exact ⟨h, rfl⟩
  | stored source =>
    obtain ⟨own, sound, same⟩ := sourceOptionOf h source
    refine ⟨sound, ?_⟩
    simp only [Recorder.call, Recorder.add, own, same, Call.instrument]

theorem calledAll (h : Sound r) (calls : List Call) :
    Sound (calls.foldl Recorder.call r) ∧
      ∀ p, entered p (calls.foldl Recorder.call r).adds = (calls.countP fun c => p c.instrument) + entered p r.adds := by
  induction calls generalizing r with
  | nil => exact ⟨h, fun p => by simp⟩
  | cons c rest ih =>
    obtain ⟨sound, adds⟩ := called h c
    obtain ⟨last, entries⟩ := ih sound
    refine ⟨last, fun p => ?_⟩
    rw [List.foldl_cons, entries, adds, enteredCons, List.countP_cons]
    omega

theorem saidCalls (events : List Event) (p : Instrument → Bool) :
    (said events).countP p = (events.flatMap callsOf).countP fun c => p c.instrument := by
  rw [said, ← List.map_flatMap, List.countP_map]
  rfl

theorem recorded (h : Sound r) (events : List Event) :
    Sound (events.foldl Recorder.record r) ∧
      ∀ p, entered p (events.foldl Recorder.record r).adds = (said events).countP p + entered p r.adds := by
  have same : events.foldl Recorder.record r = (events.flatMap callsOf).foldl Recorder.call r := by
    rw [List.foldl_flatMap]
    rfl
  rw [same]
  refine (calledAll h _).imp_right fun entries p => ?_
  rw [entries, saidCalls]

theorem preCreated (sources : List Label) (r : Recorder) :
    (r.preCreateSources sources).cachedBySource = r.cachedBySource ∧
      ∀ p, entered p (r.preCreateSources sources).adds = entered p r.adds := by
  induction sources generalizing r with
  | nil => exact ⟨rfl, fun p => rfl⟩
  | cons s rest ih =>
    obtain ⟨options, entries⟩ := ih (r.add (.cacheStored ⟨s⟩) 0)
    refine ⟨options, fun p => (entries p).trans ?_⟩
    rw [Recorder.add, enteredCons, ite_self, Nat.zero_add]

theorem sumSources (r : Recorder) :
    ∑ src ∈ r.sources, r.added (.cacheStored ⟨src⟩) = entered isStored r.adds := by
  have apart : Function.Injective fun src => Instrument.cacheStored ⟨src⟩ := by
    intro src src' same
    cases same
    rfl
  refine (balanceSum apart r.sources r.adds).trans (enteredCongr ?_)
  rintro ⟨x, n⟩ mem
  cases x with
  | cacheStored o =>
    refine decide_eq_true ⟨o.source, ?_, rfl⟩
    exact List.mem_toFinset.mpr (List.mem_filterMap.mpr ⟨_, mem, rfl⟩)
  | _ => simp [isStored, sourceOf]

end Recording

structure Adds (lib : FrameLib) (tee : Bool) (d : Datagram) (events : List Event) : Prop where
  handled : (said events).count (.framesDropped .teeDecapError) + (said events).count (.framesDropped .decodeError) +
    (said events).count .framesReceived = 1
  received : (said events).count .framesReceived = events.countP (Event.stores false) +
    events.countP (Event.stores true) + (unstamped lib tee d).toNat
  cached : (said events).count .framesCached = events.countP (Event.stores false)
  failed : (said events).count .cacheErrors = events.countP (Event.stores true)
  stored : (said events).countP isStored = events.countP (Event.stores false)
  bySource : ∀ src, (said events).count (.cacheStored ⟨src⟩) =
    if ownSource lib tee d = src then events.countP (Event.stores false) else 0
  elsewhere : (said events).count (.framesDropped .truncated) = 0 ∧ (said events).count (.framesDropped .queueFull) = 0

section Adding
variable {lib : FrameLib} {tee : Bool} {a : Arrival} {events : List Event}

theorem unstampedNone (none' : carried lib tee a.datagram.bytes = none) : unstamped lib tee a.datagram = false := by
  rw [unstamped, none', Option.bind_none, Option.any_none]

theorem unstampedBad {raw : Bytes} (frame : carried lib tee a.datagram.bytes = some raw)
    (bad : decodeClass lib raw = none) : unstamped lib tee a.datagram = false := by
  rw [unstamped, frame, Option.bind_some, bad, Option.any_none]

theorem unstampedOf {raw : Bytes} {f : Flow} (frame : carried lib tee a.datagram.bytes = some raw)
    (decoded : decodeClass lib raw = some f) : unstamped lib tee a.datagram = decide (f.seqNum = 0) := by
  rw [unstamped, frame, Option.bind_some, decoded, Option.any_some]

theorem addsBehind {d : Datagram} (pkt : Bytes) (h : Adds lib tee d events) :
    Adds lib tee d (noted lib tee pkt ++ events) := by
  unfold noted
  split
  · obtain ⟨handled, received, cached, failed, stored, bySource, elsewhere⟩ := h
    refine ⟨?_, ?_, ?_, ?_, ?_, fun src => ?_, ?_⟩
    · simpa [said, callsOf, Call.instrument] using handled
    · simpa [said, callsOf, Call.instrument, Event.stores] using received
    · simpa [said, callsOf, Call.instrument, Event.stores] using cached
    · simpa [said, callsOf, Call.instrument, Event.stores] using failed
    · simpa [said, callsOf, Call.instrument, Event.stores, isStored, sourceOf] using stored
    · simpa [said, callsOf, Call.instrument, Event.stores] using bySource src
    · simpa [said, callsOf, Call.instrument] using elsewhere
  · exact h

theorem didAdds (did : Did lib tee a events) : Adds lib tee a.datagram events := by
  cases did with
  | decapError none' =>
    have plain := unstampedNone none'
    constructor <;> simp [said, callsOf, Call.instrument, Event.stores, isStored, sourceOf, plain]
  | decodeError frame bad =>
    have plain := unstampedBad frame bad
    refine addsBehind _ ?_
    constructor <;> simp [said, callsOf, Call.instrument, Event.stores, isStored, sourceOf, plain]
  | unstamped frame decoded zero =>
    have flagged := unstampedOf frame decoded
    refine addsBehind _ ?_
    constructor <;> simp [said, callsOf, Call.instrument, Event.stores, isStored, sourceOf, flagged, zero]
  | stored key ttl frame decoded stamped answer =>
    have flagged := unstampedOf frame decoded
    refine addsBehind _ ?_
    constructor <;> simp [said, callsOf, Call.instrument, Event.stores, isStored, sourceOf, flagged, stamped,
      List.count_cons]
  | failed key ttl frame decoded stamped answer =>
    have flagged := unstampedOf frame decoded
    refine addsBehind _ ?_
    constructor <;> simp [said, callsOf, Call.instrument, Event.stores, isStored, sourceOf, flagged, stamped]

theorem notedCalls (lib : FrameLib) (tee : Bool) (pkt : Bytes) : storesOf (noted lib tee pkt) = [] := by
  unfold noted
  split <;> rfl

theorem didOnce (did : Did lib tee a events) : (storesOf events).length ≤ 1 := by
  have none := notedCalls lib tee a.datagram.bytes
  rw [storesOf] at none
  cases did with
  | decapError => exact Nat.zero_le _
  | decodeError | unstamped => rw [storesOf, List.filterMap_append, none]; exact Nat.zero_le _
  | stored | failed => rw [storesOf, List.filterMap_append, none]; exact Nat.le_refl _

theorem didLabelled (did : Did lib tee a events) (src : Label) :
    .frameCached src ∈ events ↔
      (∃ key value ttl, .store key value ttl false ∈ events) ∧ src = ownSource lib tee a.datagram := by
  have quiet : ∀ e ∈ noted lib tee a.datagram.bytes, ∃ form, e = .teeDatagram form := by
    intro e mem
    unfold noted at mem
    split at mem
    · exact ⟨_, List.mem_singleton.mp mem⟩
    · cases mem
  have uncounted : ∀ src, .frameCached src ∉ noted lib tee a.datagram.bytes := by
    intro src mem
    obtain ⟨form, same⟩ := quiet _ mem
    cases same
  have uncalled : ∀ key value ttl failed, .store key value ttl failed ∉ noted lib tee a.datagram.bytes := by
    intro key value ttl failed mem
    obtain ⟨form, same⟩ := quiet _ mem
    cases same
  cases did with
  | decapError => simp
  | decodeError | unstamped => simp [uncounted, uncalled]
  | stored => simp [uncounted, uncalled]
  | failed => simp [uncounted, uncalled]

end Adding

def storesIn (failed : Bool) (hs : List Handled) : Nat :=
  (hs.map fun h => h.events.countP (Event.stores failed)).sum

def ofSource (lib : FrameLib) (tee : Bool) (src : Label) (hs : List Handled) : List Handled :=
  hs.filter fun h => ownSource lib tee h.arrival.datagram = src

structure InOrder (lib : FrameLib) (tee : Bool) (s : State) : Prop where
  socket : s.processor.tee = tee
  kept : Kept s.processor
  did : ∀ h ∈ s.handled, Did lib tee h.arrival h.events
  sound : Sound s.recorder
  made : ∀ p, entered p s.recorder.adds = (s.handled.flatMap fun h => said h.events).countP p

section Keeping
variable {lib : FrameLib} {w : Worker} {tee : Bool}

theorem startInOrder (lib : FrameLib) (tee : Bool) (sources : List Label) :
    InOrder lib tee (start tee sources) := by
  obtain ⟨options, entries⟩ := preCreated sources Recorder.new
  refine ⟨rfl, .inl rfl, fun h mem => (nomatch mem), ?_, entries⟩
  intro m there
  rw [start, options] at there
  cases there

theorem stepInOrder {s : State} (h : InOrder lib tee s) (w : Worker) (a : Arrival) :
    InOrder lib tee (step lib w s a) := by
  have handling : Did lib tee a (s.processor.handle lib w a.datagram a.backend a.fault a.now).1 ∧ _ :=
    handleDid h.kept h.socket
  obtain ⟨did, kept, socket⟩ := handling
  obtain ⟨sound, entries⟩ := recorded h.sound (s.processor.handle lib w a.datagram a.backend a.fault a.now).1
  refine ⟨socket, kept, ?_, sound, ?_⟩
  · intro handled mem
    rcases List.mem_cons.mp mem with rfl | old
    · exact did
    · exact h.did handled old
  · intro p
    rw [step, List.flatMap_cons, List.countP_append, ← h.made p]
    exact entries p

theorem runInOrder {s : State} (h : InOrder lib tee s) (w : Worker) (arrivals : List Arrival) :
    InOrder lib tee (arrivals.foldl (step lib w) s) := by
  induction arrivals generalizing s with
  | nil => exact h
  | cons a rest ih => exact ih (stepInOrder h w a)

theorem runHandled (lib : FrameLib) (w : Worker) (s : State) (arrivals : List Arrival) :
    (arrivals.foldl (step lib w) s).handled.map Handled.arrival =
      arrivals.reverse ++ s.handled.map Handled.arrival := by
  induction arrivals generalizing s with
  | nil => rfl
  | cons a rest ih =>
    rw [List.foldl_cons, ih, List.reverse_cons, List.append_assoc]
    rfl

theorem InOrder.sum {s : State} (h : InOrder lib tee s) (p : Instrument → Bool) (f : Handled → Nat)
    (each : ∀ d ∈ s.handled, Adds lib tee d.arrival.datagram d.events → (said d.events).countP p = f d) :
    entered p s.recorder.adds = (s.handled.map f).sum := by
  rw [h.made, List.countP_flatMap]
  refine congrArg List.sum (List.map_congr_left fun d mem => ?_)
  exact each d mem (didAdds (h.did d mem))

theorem countSum {τ : Type} (q : τ → Bool) (xs : List τ) : xs.countP q = (xs.map fun x => (q x).toNat).sum := by
  induction xs with
  | nil => rfl
  | cons x rest ih =>
    rw [List.countP_cons, List.map_cons, List.sum_cons, ih, Nat.add_comm]
    cases q x <;> rfl

theorem sumFilter {τ : Type} (q : τ → Bool) (f : τ → Nat) (xs : List τ) :
    ((xs.filter q).map f).sum = (xs.map fun x => if q x then f x else 0).sum := by
  induction xs with
  | nil => rfl
  | cons x rest ih => by_cases pass : q x <;> simp [pass, ih]

theorem InOrder.handledCount {s : State} (h : InOrder lib tee s) :
    s.handled.length = s.recorder.added (.framesDropped .teeDecapError) +
      s.recorder.added (.framesDropped .decodeError) + s.recorder.added .framesReceived := by
  have each : ∀ x, s.recorder.added x = (s.handled.map fun d => (said d.events).count x).sum :=
    fun x => h.sum (fun key => decide (key = x)) _ fun _ _ _ => rfl
  have one : ∀ d ∈ s.handled, (said d.events).count (.framesDropped .teeDecapError) +
      (said d.events).count (.framesDropped .decodeError) + (said d.events).count .framesReceived = 1 :=
    fun d mem => (didAdds (h.did d mem)).handled
  rw [each, each, each, ← List.sum_map_add, ← List.sum_map_add, List.map_congr_left one, List.map_const',
    List.sum_replicate_nat, Nat.mul_one]

theorem InOrder.receivedCount {s : State} (h : InOrder lib tee s) :
    s.recorder.added .framesReceived = storesIn false s.handled + storesIn true s.handled +
      s.handled.countP fun h => unstamped lib tee h.arrival.datagram := by
  rw [storesIn, storesIn, countSum, ← List.sum_map_add, ← List.sum_map_add]
  exact h.sum _ _ fun d _ adds => adds.received

theorem InOrder.cachedCount {s : State} (h : InOrder lib tee s) :
    s.recorder.added .framesCached = storesIn false s.handled :=
  h.sum _ _ fun _ _ adds => adds.cached

theorem InOrder.totalCount {s : State} (h : InOrder lib tee s) :
    ∑ src ∈ s.recorder.sources, s.recorder.added (.cacheStored ⟨src⟩) = s.recorder.added .framesCached := by
  rw [sumSources, h.cachedCount]
  exact h.sum _ _ fun _ _ adds => adds.stored

theorem InOrder.sourceCount {s : State} (h : InOrder lib tee s) (src : Label) :
    s.recorder.added (.cacheStored ⟨src⟩) = storesIn false (ofSource lib tee src s.handled) := by
  have all : s.recorder.added (.cacheStored ⟨src⟩) = (s.handled.map fun d =>
      if ownSource lib tee d.arrival.datagram = src then d.events.countP (Event.stores false) else 0).sum :=
    h.sum _ _ fun _ _ adds => adds.bySource src
  rw [all, storesIn, ofSource, sumFilter]
  simp only [decide_eq_true_eq]

end Keeping

structure Accounted (lib : FrameLib) (tee : Bool) (arrivals : List Arrival) (s : State) : Prop where
  all : s.handled.map Handled.arrival = arrivals.reverse
  handled : arrivals.length = s.recorder.added (.framesDropped .teeDecapError) +
    s.recorder.added (.framesDropped .decodeError) + s.recorder.added .framesReceived
  received : s.recorder.added .framesReceived = storesIn false s.handled + storesIn true s.handled +
    s.handled.countP fun h => unstamped lib tee h.arrival.datagram
  once : ∀ h ∈ s.handled, (storesOf h.events).length ≤ 1
  cached : s.recorder.added .framesCached = storesIn false s.handled
  total : ∑ src ∈ s.recorder.sources, s.recorder.added (.cacheStored ⟨src⟩) = s.recorder.added .framesCached
  labelled : ∀ h ∈ s.handled, ∀ src, .frameCached src ∈ h.events ↔
    (∃ key value ttl, .store key value ttl false ∈ h.events) ∧
      src = ownSource lib tee h.arrival.datagram
  bySource : ∀ src, s.recorder.added (.cacheStored ⟨src⟩) =
    storesIn false (ofSource lib tee src s.handled)

/-- Over any datagrams one processor handles, on either socket and whatever the
backend answers: each is dropped for one of two reasons or received, each received
one is stored, fails or is unstamped, no datagram is stored twice, and the stores
that succeeded are counted once in all and once for the datagram's own source. -/
theorem ingressAccounted (lib : FrameLib) (w : Worker) (tee : Bool) (sources : List Label)
    (arrivals : List Arrival) :
    Accounted lib tee arrivals (arrivals.foldl (step lib w) (start tee sources)) := by
  have order := runInOrder (startInOrder lib tee sources) w arrivals
  have all := runHandled lib w (start tee sources) arrivals
  have length : (arrivals.foldl (step lib w) (start tee sources)).handled.length = arrivals.length := by
    have := congrArg List.length all
    simpa [start] using this
  exact {
    all := by simpa [start] using all
    handled := length.symm.trans order.handledCount
    received := order.receivedCount
    once := fun h mem => didOnce (order.did h mem)
    cached := order.cachedCount
    total := order.totalCount
    labelled := fun h mem => didLabelled (order.did h mem)
    bySource := order.sourceCount }

end RetryEndpoint.Accounts
