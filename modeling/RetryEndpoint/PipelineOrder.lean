import RetryEndpoint.PipelineProgress

/-! What the receive pipeline does with the datagrams it reads. Every one ends
once: handled whole by one processor, or dropped for a reason that is recorded.
A key decides the queue in either form of a datagram, so the Store calls of one
key are made in the order its datagrams were read. -/
namespace RetryEndpoint.Pipeline
open BigEndian Ingress Wire Cache Places Runs
open ShardedQueues (Item stamped Ordered Conserved)

inductive Fate (lib : FrameLib) (w : Worker) (tee : Bool) : Record → Prop where
  | handled {p x} (low : p < procs w) (whole : Whole x.value) (by' : Processor) (b : Backend)
      (fault : Fault) (now : Int) (socket : by'.tee = tee) :
      Fate lib w tee (.handled p x (by'.handle lib w x.value b fault now).1)
  | truncated {x} (cut : slotSize < x.value.bytes.length) :
      Fate lib w tee (.dropped .truncated x [.frameDropped .truncated])
  | empty {x} (none : x.value.bytes = []) : Fate lib w tee (.dropped .empty x [])
  | queueFull {x} (whole : Whole x.value) :
      Fate lib w tee (.dropped .queueFull x [.frameDropped .queueFull])
  | abandoned {x} : Fate lib w tee (.dropped .abandoned x [])

structure Checked (lib : FrameLib) (w : Worker) (tee : Bool) (s : State) : Prop where
  queued : ∀ q slot, slot ∈ s.queues q → Whole (s.mem slot).value
  held : ∀ p slot, s.hands p = .holding slot → Whole (s.mem slot).value
  waiting : ∀ before slot todo rest, s.pc = .waiting before slot todo rest → Whole (s.mem slot).value
  sockets : ∀ p, (s.labels p).tee = tee
  fates : ∀ r ∈ s.history, Fate lib w tee r

section Checks
variable {lib : FrameLib} {w : Worker} {tee : Bool}

theorem initChecked (b : Backend) : Checked lib w tee (init w tee b) := by
  refine ⟨?_, ?_, ?_, fun _ => rfl, ?_⟩
  · intro q slot mem
    cases mem
  · intro p slot held
    cases held
  · intro before slot todo rest here
    cases here
  · intro r mem
    cases mem

theorem Checked.along {s s' : State} (h : Checked lib w tee s) (mem : s'.mem = s.mem)
    (queues : s'.queues = s.queues) (hands : s'.hands = s.hands) (labels : s'.labels = s.labels)
    (waiting : ∀ before slot todo rest, s'.pc = .waiting before slot todo rest →
      Whole (s.mem slot).value)
    (fates : ∀ r ∈ s'.history, r ∈ s.history ∨ Fate lib w tee r) : Checked lib w tee s' := by
  refine ⟨?_, ?_, ?_, ?_, ?_⟩
  · rw [queues, mem]
    exact h.queued
  · rw [hands, mem]
    exact h.held
  · rw [mem]
    exact waiting
  · rw [labels]
    exact h.sockets
  · intro r inside
    exact (fates r inside).elim (h.fates r) id

theorem Checked.pushed {s : State} (h : Checked lib w tee s) {q slot : Nat} {before todo rest : List Nat}
    (whole : Whole (s.mem slot).value) :
    Checked lib w tee { s.push q slot with pc := .refill before todo rest } := by
  refine ⟨?_, h.held, nofun, h.sockets, h.fates⟩
  intro k x inside
  by_cases same : k = q
  · subst k
    simp only [State.push, Function.update_self, List.mem_append, List.mem_singleton] at inside
    rcases inside with old | rfl
    · exact h.queued _ x old
    · exact whole
  · simp only [State.push, Function.update_of_ne same] at inside
    exact h.queued k x inside

theorem Checked.heldAfter {s : State} (h : Checked lib w tee s) {p : Nat} {hand : Hand}
    (empty : hand.held = none) (k x : Nat) (busy : Function.update s.hands p hand k = .holding x) :
    Whole (s.mem x).value := by
  by_cases same : k = p
  · subst k
    rw [Function.update_self] at busy
    rw [busy] at empty
    cases empty
  · rw [Function.update_of_ne same] at busy
    exact h.held k x busy

theorem skippedFate {x : Item Datagram} {reason : Reason} {events : List Event}
    (why : Skipped x.value reason events) : Fate lib w tee (.dropped reason x events) := by
  cases why with
  | truncated cut => exact .truncated (of_decide_eq_true cut)
  | empty none => exact .empty none

theorem handledFate {s : State} (h : Checked lib w tee s) {p slot : Nat} (low : p < procs w)
    (held : s.hands p = .holding slot) (fault : Fault) (now : Int) :
    Fate lib w tee (.handled p (s.mem slot) (s.handled lib w p slot fault now).1) := by
  have whole := h.held p slot held
  simp only [State.handled, slotBytesAll whole.1]
  exact .handled low whole (s.labels p) s.backend fault now (h.sockets p)

theorem Checked.taken (h : Checked lib w tee s) {p slot : Nat} {rest : List Nat} (next : s.queues p = slot :: rest) :
    Checked lib w tee { s.setHand p (.holding slot) with queues := Function.update s.queues p rest } := by
  refine ⟨?_, ?_, h.waiting, h.sockets, h.fates⟩
  · intro q x inside
    by_cases same : q = p
    · subst q
      simp only [Function.update_self] at inside
      exact h.queued _ x (by rw [next]; exact List.mem_cons_of_mem _ inside)
    · simp only [Function.update_of_ne same] at inside
      exact h.queued q x inside
  · intro k x held
    by_cases same : k = p
    · subst k
      simp only [State.setHand, Function.update_self, Hand.holding.injEq] at held
      subst x
      exact h.queued _ slot (by rw [next]; exact List.mem_cons_self)
    · simp only [State.setHand, Function.update_of_ne same] at held
      exact h.held k x held

theorem stepChecked {s s' : State} {a : Action} (owned : Owned w s) (h : Checked lib w tee s)
    (ok : step lib w tee s a = some s') : Checked lib w tee s' := by
  cases stepTook lib w tee ok with
  | outside | cancel => exact ⟨h.queued, h.held, h.waiting, h.sockets, h.fates⟩
  | @read datagrams batch top fits =>
    refine ⟨?_, ?_, nofun, h.sockets, h.fates⟩
    · intro q slot queued
      dsimp only
      rw [owned.readKeeps top (.inl queued)]
      exact h.queued q slot queued
    · intro p slot held
      dsimp only
      rw [owned.readKeeps top (.inr (heldSlot (by rw [held]; rfl)))]
      exact h.held p slot held
  | leave | endBatch | refill => exact h.along rfl rfl rfl rfl nofun (fun _ => .inl)
  | skip here why =>
    refine h.along rfl rfl rfl rfl nofun ?_
    intro r mem
    rcases List.mem_cons.mp mem with rfl | old
    · exact .inr (skippedFate why)
    · exact .inl old
  | push here whole room => exact h.pushed whole
  | block here whole full =>
    refine h.along rfl rfl rfl rfl ?_ (fun _ => .inl)
    intro before slot todo rest same
    cases same
    exact whole
  | resume here room => exact h.pushed (h.waiting _ _ _ _ here)
  | timeout here =>
    refine h.along rfl rfl rfl rfl nofun ?_
    intro r mem
    rcases List.mem_cons.mp mem with rfl | old
    · exact .inr (.queueFull (h.waiting _ _ _ _ here))
    · exact .inl old
  | giveUp here cancelled =>
    refine h.along rfl rfl rfl rfl nofun ?_
    intro r mem
    rcases List.mem_append.mp mem with isNew | old
    · obtain ⟨k, -, rfl⟩ := List.mem_map.mp (List.mem_reverse.mp isNew)
      exact .inr .abandoned
    · exact .inl old
  | take low idle next => exact h.taken next
  | @handle p fault now slot low held =>
    refine ⟨h.queued, h.heldAfter rfl, h.waiting, ?_, ?_⟩
    · intro k
      by_cases same : k = p
      · subst k
        simp only [State.handled, Function.update_self, (handleStores ..).2.2]
        exact h.sockets _
      · simp only [Function.update_of_ne same]
        exact h.sockets k
    · intro r mem
      rcases List.mem_cons.mp mem with rfl | old
      · exact handledFate h low held fault now
      · exact h.fates r old
  | release | exit => exact ⟨h.queued, h.heldAfter rfl, h.waiting, h.sockets, h.fates⟩

def Told (s : State) : Prop := ∀ x events, .dropped .abandoned x events ∈ s.history → s.cancelled = true

theorem stepTold {s s' : State} {a : Action} (h : Told s) (ok : step lib w tee s a = some s') : Told s' := by
  intro x events mem
  cases stepTook lib w tee ok with
  | cancel => rfl
  | giveUp here cancelled => exact cancelled
  | skip here why =>
    rcases List.mem_cons.mp mem with same | old
    · cases why <;> cases same
    · exact h x events old
  | timeout here =>
    rcases List.mem_cons.mp mem with same | old
    · cases same
    · exact h x events old
  | handle low held =>
    rcases List.mem_cons.mp mem with same | old
    · cases same
    · exact h x events old
  | outside | read | leave | endBatch | push | block | resume | refill | take | release | exit =>
    exact h x events mem

def FoundFull (lib : FrameLib) (w : Worker) (tee : Bool) (x : Item Datagram) (s : State) : Prop :=
  ∃ before slot todo rest, s.pc = .dispatch before (slot :: todo) rest ∧ s.mem slot = x ∧
    per w ≤ (s.queues (target lib w tee x.value)).length

def Overdue (x : Item Datagram) (s : State) : Prop :=
  (∃ events, .dropped .queueFull x events ∈ s.history) ∨
    ∃ before slot todo rest, s.pc = .waiting before slot todo rest ∧ s.mem slot = x

theorem stepOverdue {x : Item Datagram} {s s' : State} {a : Action} (ok : step lib w tee s a = some s')
    (late : Overdue x s') : Overdue x s ∨ FoundFull lib w tee x s := by
  rcases late with ⟨events, mem⟩ | ⟨before, slot, todo, rest, waits, holds⟩
  · refine .inl ?_
    cases stepTook lib w tee ok with
    | skip here why =>
      rcases List.mem_cons.mp mem with same | old
      · cases why <;> cases same
      · exact .inl ⟨events, old⟩
    | timeout here =>
      rcases List.mem_cons.mp mem with same | old
      · cases same
        exact .inr ⟨_, _, _, _, here, rfl⟩
      · exact .inl ⟨events, old⟩
    | handle low held =>
      rcases List.mem_cons.mp mem with same | old
      · cases same
      · exact .inl ⟨events, old⟩
    | giveUp here cancelled =>
      rcases List.mem_append.mp mem with isNew | old
      · obtain ⟨k, -, same⟩ := List.mem_map.mp (List.mem_reverse.mp isNew)
        cases same
      · exact .inl ⟨events, old⟩
    | outside | cancel | read | leave | endBatch | push | block | resume | refill | take | release | exit =>
      exact .inl ⟨events, mem⟩
  · cases stepTook lib w tee ok with
    | block here whole full =>
      cases waits
      exact .inr ⟨_, _, _, _, here, holds, holds ▸ full⟩
    | outside | cancel | take | handle | release | exit =>
      exact .inl (.inr ⟨before, slot, todo, rest, waits, holds⟩)
    | read | leave | endBatch | skip | push | resume | timeout | giveUp | refill => cases waits

theorem foundFull {b : Backend} {acts : List Action} {s : State} {x : Item Datagram} {events : List Event}
    (ran : run (step lib w tee) (init w tee b) acts = some s) (mem : .dropped .queueFull x events ∈ s.history) :
    Met (step lib w tee) (FoundFull lib w tee x) (init w tee b) acts := by
  refine (cameAbout (fun _ _ _ => stepOverdue) ran (.inl ⟨events, mem⟩)).resolve_left ?_
  rintro (⟨events, none⟩ | ⟨before, slot, todo, rest, waits, -⟩)
  · cases none
  · cases waits

end Checks

def keyShard (key : Bytes) : UInt64 :=
  let h := uint64 (slice key 0 8) ^^^ (uint64 (slice key 8 16) * 0x9E3779B97F4A7C15)
  h ^^^ (h >>> 32)

theorem carriedShardBytes {lib : FrameLib} (decaps : lib.DecapsPayload) {tee : Bool} {pkt raw : Bytes}
    (frame : carried lib tee pkt = some raw) : shardBytes lib tee pkt = raw := by
  unfold carried at frame
  unfold shardBytes
  split at frame
  · rename_i enveloped
    obtain ⟨⟨src, payload⟩, decap, rfl⟩ := Option.map_eq_some_iff.mp frame
    rw [if_pos enveloped]
    exact (decaps pkt src payload decap).2.symm
  · rename_i raw'
    rw [if_neg raw']
    exact Option.some.inj frame

/- Raw or enveloped, a datagram is sharded by the key it will be stored under. -/
theorem storeShard {lib : FrameLib} (reads : lib.ReadsFlowKey) (decaps : lib.DecapsPayload) {tee : Bool}
    {pkt key value : Bytes} (call : datagramStore lib tee pkt = some (key, value)) :
    shardOf lib tee pkt = keyShard key := by
  obtain ⟨raw, frame, stored⟩ := Option.bind_eq_some_iff.mp call
  obtain ⟨long, rfl, rfl⟩ := frameStoreKey reads stored
  simp only [shardOf, carriedShardBytes decaps frame, if_neg (Nat.not_lt.mpr long), keyShard, keyBytes]
  rw [sliceSlice value (by decide), sliceSlice value (by decide)]

def Record.calls (key : Bytes) : Record → List (Item Datagram)
  | .handled _ x events => ((storesOf events).filter (·.1 = key)).map (fun _ => x)
  | .dropped .. => []

def storeCalls (key : Bytes) (history : List Record) : List (Item Datagram) :=
  history.flatMap (Record.calls key)

section Order
variable {lib : FrameLib} {w : Worker} {tee : Bool}

theorem handledCalls {x : Item Datagram} {events : List Event} {call : Option (Bytes × Bytes)}
    (stores : storesOf events = call.toList) (p : Nat) (key : Bytes) :
    (Record.handled p x events).calls key = if call.map Prod.fst = some key then [x] else [] := by
  rw [Record.calls, stores]
  cases call with
  | none => rfl
  | some kv => by_cases same : kv.1 = key <;> simp [same]

theorem handleSpec {s s' : State} {p : Nat} {fault : Fault} {now : Int} (h : Checked lib w tee s)
    (ok : step lib w tee s (.handle p fault now) = some s') :
    ∃ x events, s'.history = .handled p x events :: s.history ∧
      storesOf events = (datagramStore lib tee x.value.bytes).toList ∧
      Stored w fault now s.backend (datagramStore lib tee x.value.bytes) s'.backend := by
  cases stepTook lib w tee ok with
  | @handle _ _ _ slot low held =>
    have whole := h.held p slot held
    obtain ⟨stores, stored, -⟩ := handleStores lib w (s.labels p) (s.mem slot).value s.backend fault now
    rw [h.sockets p] at stores stored
    refine ⟨s.mem slot, _, rfl, ?_, ?_⟩
    · simpa only [State.handled, slotBytesAll whole.1] using stores
    · simpa only [State.handled, slotBytesAll whole.1] using stored

theorem Fate.calls {r : Record} (fate : Fate lib w tee r) (key : Bytes) :
    r.calls key = [] ∨ ∃ p events value, r = .handled p r.item events ∧ r.calls key = [r.item] ∧
      Whole r.item.value ∧ datagramStore lib tee r.item.value.bytes = some (key, value) := by
  cases fate with
  | @handled p x low whole by' b fault now socket =>
    obtain ⟨stores, -, -⟩ := handleStores lib w by' x.value b fault now
    rw [socket] at stores
    rw [handledCalls stores]
    split
    · rename_i mine
      obtain ⟨⟨k, value⟩, call, rfl⟩ := Option.map_eq_some_iff.mp mine
      exact .inr ⟨p, _, value, rfl, rfl, whole, call⟩
    · exact .inl rfl
  | truncated cut => exact .inl rfl
  | empty none => exact .inl rfl
  | queueFull whole => exact .inl rfl
  | abandoned => exact .inl rfl

theorem callTarget (reads : lib.ReadsFlowKey) (decaps : lib.DecapsPayload) {d d' : Datagram}
    {key value value' : Bytes} (whole : Whole d) (whole' : Whole d')
    (call : datagramStore lib tee d.bytes = some (key, value))
    (call' : datagramStore lib tee d'.bytes = some (key, value')) :
    target lib w tee d = target lib w tee d' := by
  simp only [target, slotBytesAll whole.1, slotBytesAll whole'.1, storeShard reads decaps call,
    storeShard reads decaps call']

theorem storesOrdered (reads : lib.ReadsFlowKey) (decaps : lib.DecapsPayload) {s : State}
    (ordered : Ordered (target lib w tee) (flow s)) (fates : ∀ r ∈ s.history, Fate lib w tee r)
    (key : Bytes) :
    (storeCalls key s.history).Pairwise (fun newer older => older.stamp < newer.stamp) := by
  refine List.pairwise_flatMap.mpr ⟨?_, ?_⟩
  · intro r mem
    rcases (fates r mem).calls key with none' | ⟨p, events, value, -, one, -⟩
    · rw [none']
      exact List.Pairwise.nil
    · rw [one]
      exact List.pairwise_singleton _ _
  · have handled := List.pairwise_map.mp ordered.handledInOrder
    refine List.Pairwise.imp_of_mem ?_ handled
    intro newer older memN memO inOrder x memX y memY
    rcases (fates newer memN).calls key with none' | ⟨p, events, value, isNew, one, whole, call⟩
    · rw [none'] at memX
      cases memX
    rcases (fates older memO).calls key with none' | ⟨p', events', value', isOld, one', whole', call'⟩
    · rw [none'] at memY
      cases memY
    rw [one, List.mem_singleton] at memX
    rw [one', List.mem_singleton] at memY
    subst memX memY
    refine inOrder p p' newer.item older.item ?_ ?_ (callTarget reads decaps whole' whole call' call)
    · rw [isNew]
      rfl
    · rw [isOld]
      rfl

structure Reached (lib : FrameLib) (w : Worker) (tee : Bool) (s : State) : Prop where
  owned : Owned w s
  checked : Checked lib w tee s
  told : Told s
  ordered : Ordered (target lib w tee) (flow s)
  conserved : Conserved (procs w) (flow s)

theorem reached {b : Backend} {acts : List Action} {s : State}
    (ran : run (step lib w tee) (init w tee b) acts = some s) : Reached lib w tee s := by
  have keeps : ∀ s a s', (Owned w s ∧ Checked lib w tee s) → step lib w tee s a = some s' →
      Owned w s' ∧ Checked lib w tee s' := by
    intro s a s' h ok
    exact ⟨stepOwned h.1 ok, stepChecked h.1 h.2 ok⟩
  obtain ⟨owned, checked⟩ := invariant keeps ⟨initOwned w tee b, initChecked b⟩ ran
  obtain ⟨acts', flowed⟩ := runFlow ran
  refine ⟨owned, checked, ?_, ?_, ?_⟩
  · have start : Told (init w tee b) := by
      intro x events mem
      cases mem
    exact invariant (fun _ _ _ => stepTold) start ran
  · exact invariant (fun _ _ _ => ShardedQueues.stepOrdered) (ShardedQueues.initOrdered _) flowed
  · exact invariant (fun _ _ _ => ShardedQueues.stepConserved (targetLow lib w tee))
      (ShardedQueues.initConserved _) flowed

theorem Reached.accounted {s : State} (h : Reached lib w tee s) :
    (s.history.map Record.item : Multiset (Item Datagram)) + pending w s = s.received := by
  have items : s.history.map Record.item = (flow s).ended.map Prod.snd := by
    simp only [flow, List.map_map]
    apply List.map_congr_left
    intro r _
    cases r <;> rfl
  rw [items, pending, ← add_assoc, ← add_assoc]
  exact h.conserved

structure Correct (lib : FrameLib) (w : Worker) (tee : Bool) (b : Backend) (acts : List Action) (s : State) :
    Prop where
  onePlace : ∀ slot < total w,
    s.free.count slot + s.pc.slots.count slot + ∑ q ∈ Finset.range (procs w), (s.queues q).count slot +
      ∑ p ∈ Finset.range (procs w), (s.hands p).slots.count slot = 1
  noOverwrite : ∀ p slot datagrams s', slot ∈ (s.hands p).slots →
    step lib w tee s (.read datagrams) = some s' → s'.mem slot = s.mem slot
  returns : ∀ p slot, p < procs w → s.hands p = .spent slot →
    ∃ s', step lib w tee s (.release p) = some s'
  refills : ∀ before todo rest, s.pc = .refill before todo rest →
    ∃ s', step lib w tee s .refill = some s'
  accounted : (s.history.map Record.item : Multiset (Item Datagram)) + pending w s = s.received
  distinct : s.received.Pairwise (fun newer older => older.stamp < newer.stamp)
  fates : ∀ r ∈ s.history, Fate lib w tee r
  queueFull : ∀ x events, .dropped .queueFull x events ∈ s.history →
    Met (step lib w tee) (FoundFull lib w tee x) (init w tee b) acts
  abandoned : ∀ x events, .dropped .abandoned x events ∈ s.history → s.cancelled = true
  settles : ∀ acts t, (∀ a ∈ acts, a.own = true) → run (step lib w tee) s acts = some t →
    acts.length ≤ work w s ∧
      (Stuck lib w tee t → (t.history.map Record.item : Multiset (Item Datagram)) = t.received)
  ordered : ∀ key,
    (storeCalls key s.history).Pairwise (fun newer older => older.stamp < newer.stamp)

/-- Whatever the sizes, the datagrams and the schedule: every slot is in one place
and nobody waits for one; every datagram read ends once, whole, or dropped for
its reason, a full queue at its turn or a cancelled context among them; and the
Store calls of a key follow the order of the reads. -/
theorem receiveCorrect (reads : lib.ReadsFlowKey) (decaps : lib.DecapsPayload) (b : Backend)
    (acts : List Action) (s : State) (ran : run (step lib w tee) (init w tee b) acts = some s) :
    Correct lib w tee b acts s := by
  have h : Reached lib w tee s := reached ran
  refine ⟨fun _ => h.owned.onePlace, ?_, ?_, ?_, h.accounted, h.ordered.record, h.checked.fates,
    fun _ _ => foundFull ran, h.told, ?_, storesOrdered reads decaps h.ordered h.checked.fates⟩
  · intro p slot datagrams s' busy ok
    cases stepTook lib w tee ok with
    | read top fits => exact h.owned.readKeeps top (.inr busy)
  · intro p slot low held
    simp [step, low, held, h.owned.returns low held]
  · intro before todo rest here
    obtain ⟨slot, free, left⟩ := h.owned.refills here
    simp [step, here, left]
  · intro more t own ranOn
    have spent := runWork own ranOn
    refine ⟨by omega, ?_⟩
    intro stuck
    have later : Reached lib w tee t := reached (runAppend ran ranOn)
    have all := later.accounted
    rw [(stuck.quiet later.owned).drained, add_zero] at all
    exact all

end Order

def pair : Worker := ⟨⟨[]⟩, ⟨5, 5, 5, 5, 5⟩, 2, 2⟩

def twice : List Action :=
  [.read [⟨plainFrame 7 9 0, none⟩, ⟨enveloped (plainFrame 7 9 1), none⟩], .next, .refill, .next,
    .take 1, .resume, .refill, .handle 1 .none 0, .release 1, .take 1, .handle 1 .none 1, .next]

theorem receiveCorrectTwice :
    ∃ s, run (step .plain pair true) (init pair true ExpiringStore.empty) twice = some s ∧
      (storeCalls (flowKey 7 9) s.history).map Item.stamp = [1, 0] ∧
      Correct .plain pair true ExpiringStore.empty twice s := by
  have computed : (run (step .plain pair true) (init pair true ExpiringStore.empty) twice).map
      (fun s => (storeCalls (flowKey 7 9) s.history).map Item.stamp) = some [1, 0] := by decide +kernel
  obtain ⟨s, ran, calls⟩ := Option.map_eq_some_iff.mp computed
  exact ⟨s, ran, calls, receiveCorrect plainReadsFlowKey plainDecapsPayload _ _ s ran⟩

end RetryEndpoint.Pipeline
