import RetryEndpoint.Accounts
import RetryEndpoint.PipelineOrder

/-! The books of all feeds. The multicast workers and the tee each read a socket of their own,
and every receive loop and every processor adds to one Recorder, in any order. A processor makes
its Add calls one at a time: those before its Store call once it has taken a datagram, those
behind it before it gives the slot back. What was read is held against what the feeds have
added; the server and the retransmitter move cacheErrors as well. -/
namespace RetryEndpoint.FeedAccounts
open BigEndian Wire Cache Ingress Ledger Runs Places
open Accounts (Recorder Instrument Call Arrival Did callsOf said isStored ownSource)
open Pipeline (Record Reason Owned Checked Fate)

/- log is what the histories of the feeds hold, in the order of the steps; unsaid are the Add
calls a feed's processor has still to make for the datagram it is at. -/
structure State (ι : Type) where
  feeds : ι → Pipeline.State
  unsaid : ι × Nat → List Call
  recorder : Recorder
  log : List (ι × Record)

def eventsOf : Record → List Event
  | .handled _ _ events | .dropped _ _ events => events

def fresh (before after : Pipeline.State) : List Record :=
  (after.history.take (after.history.length - before.history.length)).reverse

def isStore : Event → Bool
  | .store _ _ _ _ => true
  | _ => false

def beforeStore (events : List Event) : List Call := (events.takeWhile fun e => !isStore e).flatMap callsOf
def behindStore (events : List Event) : List Call := (events.dropWhile fun e => !isStore e).flatMap callsOf

def atOnce : Record → List Call
  | .dropped _ _ events => events.flatMap callsOf
  | .handled .. => []

def afterwards : Record → List Call
  | .handled _ _ events => behindStore events
  | .dropped .. => []

section Step
variable {ι : Type} [DecidableEq ι] (lib : FrameLib) (w : Worker) (tee : ι → Bool)

/- How the Store call will end does not show in the calls before it. -/
def atFirst (s : Pipeline.State) (p : Nat) : List Call :=
  match s.hands p with
  | .holding slot => beforeStore (s.handled lib w p slot .none 0).1
  | _ => []

def nextUnsaid (unsaid : ι × Nat → List Call) (i : ι) (next : Pipeline.State) (ended : List Record) :
    Pipeline.Action → ι × Nat → List Call
  | .take p => Function.update unsaid (i, p) (atFirst lib w next p)
  | .handle p _ _ => Function.update unsaid (i, p) (ended.flatMap afterwards)
  | _ => unsaid

def ready (unsaid : ι × Nat → List Call) (i : ι) : Pipeline.Action → Bool
  | .handle p _ _ | .release p => (unsaid (i, p)).isEmpty
  | _ => true

inductive Action (ι : Type) where
  | feed (i : ι) (a : Pipeline.Action)
  | say (i : ι) (p : Nat)

def init (b : Backend) (sources : List Label) : State ι :=
  ⟨fun i => Pipeline.init w (tee i) b, fun _ => [], Recorder.new.preCreateSources sources, []⟩

def step (s : State ι) : Action ι → Option (State ι)
  | .feed i a =>
    if ready s.unsaid i a then do
      let next ← Pipeline.step lib w (tee i) (s.feeds i) a
      let ended := fresh (s.feeds i) next
      some ⟨Function.update s.feeds i next, nextUnsaid lib w s.unsaid i next ended a,
        (ended.flatMap atOnce).foldl Recorder.call s.recorder, (ended.map fun r => (i, r)).reverse ++ s.log⟩
    else none
  | .say i p =>
    match s.unsaid (i, p) with
    | c :: rest =>
      some { s with unsaid := Function.update s.unsaid (i, p) rest, recorder := s.recorder.call c }
    | [] => none

end Step

inductive Stage where
  | idle
  | opened (d : Datagram)
  | closed

def stageOf (mem : Nat → ShardedQueues.Item Datagram) : Pipeline.Hand → Stage
  | .idle | .exited => .idle
  | .holding slot => .opened (mem slot).value
  | .spent _ => .closed

def stage (s : Pipeline.State) (p : Nat) : Stage := stageOf s.mem (s.hands p)

def verdict (lib : FrameLib) (tee : Bool) (d : Datagram) : Instrument :=
  match carried lib tee d.bytes with
  | none => .framesDropped .teeDecapError
  | some raw => if (decodeClass lib raw).isSome then .framesReceived else .framesDropped .decodeError

def isVerdict : Instrument → Bool
  | .framesDropped _ | .framesReceived => true
  | _ => false

def opening (lib : FrameLib) (tee : Bool) (d : Datagram) : List Call :=
  (if (carried lib tee d.bytes).isSome then (Accounts.noted lib tee d.bytes).flatMap callsOf else []) ++
    [.plain (verdict lib tee d)]

inductive Owes (lib : FrameLib) (tee : Bool) : Stage → List Call → Prop where
  | idle : Owes lib tee .idle []
  | opened {d} : Owes lib tee (.opened d) []
  | verdict {d} : Owes lib tee (.opened d) [.plain (verdict lib tee d)]
  | noted {d form} : Owes lib tee (.opened d) [.plain (.teeDatagrams form), .plain (verdict lib tee d)]
  | closed : Owes lib tee .closed []
  | failed : Owes lib tee .closed [.plain .cacheErrors]
  | cached {src} : Owes lib tee .closed [.plain .framesCached, .stored src]
  | halfway {src} : Owes lib tee .closed [.stored src]

section Calls
variable {lib : FrameLib} {tee : Bool}

theorem Owes.rest {stage : Stage} {c : Call} {calls : List Call} (h : Owes lib tee stage (c :: calls)) :
    Owes lib tee stage calls := by
  cases h with
  | verdict => exact .opened
  | noted => exact .verdict
  | failed => exact .closed
  | cached => exact .halfway
  | halfway => exact .closed

theorem Owes.none {calls : List Call} (h : Owes lib tee .idle calls) : calls = [] := by
  cases h with
  | idle => rfl

theorem notedOpens (lib : FrameLib) (tee : Bool) (pkt : Bytes) :
    (Accounts.noted lib tee pkt).flatMap callsOf = [] ∨
      ∃ form, (Accounts.noted lib tee pkt).flatMap callsOf = [.plain (.teeDatagrams form)] := by
  unfold Accounts.noted
  split
  · exact .inr ⟨_, rfl⟩
  · exact .inl rfl

theorem openingOwed (lib : FrameLib) (tee : Bool) (d : Datagram) :
    Owes lib tee (.opened d) (opening lib tee d) := by
  unfold opening
  split
  · rcases notedOpens lib tee d.bytes with none | ⟨form, one⟩
    · rw [none]
      exact .verdict
    · rw [one]
      exact .noted
  · exact .verdict

theorem storeSplits (events : List Event) : beforeStore events ++ behindStore events = events.flatMap callsOf := by
  rw [beforeStore, behindStore, ← List.flatMap_append, List.takeWhile_append_dropWhile]

theorem notedUnstored (lib : FrameLib) (tee : Bool) (pkt : Bytes) (events : List Event) :
    (Accounts.noted lib tee pkt ++ events).takeWhile (fun e => !isStore e) =
      Accounts.noted lib tee pkt ++ events.takeWhile (fun e => !isStore e) ∧
    (Accounts.noted lib tee pkt ++ events).dropWhile (fun e => !isStore e) =
      events.dropWhile (fun e => !isStore e) := by
  unfold Accounts.noted
  split <;> exact ⟨rfl, rfl⟩

theorem didOpens {a : Arrival} {events : List Event} (did : Did lib tee a events) :
    beforeStore events = opening lib tee a.datagram ∧ Owes lib tee .closed (behindStore events) := by
  cases did with
  | decapError none' =>
    refine ⟨?_, .closed⟩
    simp [beforeStore, opening, verdict, none', isStore, callsOf]
  | decodeError frame bad =>
    rw [beforeStore, behindStore, (notedUnstored ..).1, (notedUnstored ..).2]
    refine ⟨?_, .closed⟩
    simp [opening, verdict, frame, bad, isStore, callsOf]
  | unstamped frame decoded zero =>
    rw [beforeStore, behindStore, (notedUnstored ..).1, (notedUnstored ..).2]
    refine ⟨?_, .closed⟩
    simp [opening, verdict, frame, decoded, isStore, callsOf]
  | stored key ttl frame decoded stamped answer =>
    rw [beforeStore, behindStore, (notedUnstored ..).1, (notedUnstored ..).2]
    refine ⟨?_, .cached⟩
    simp [opening, verdict, frame, decoded, isStore, callsOf]
  | failed key ttl frame decoded stamped answer =>
    rw [beforeStore, behindStore, (notedUnstored ..).1, (notedUnstored ..).2]
    refine ⟨?_, .failed⟩
    simp [opening, verdict, frame, decoded, isStore, callsOf]

end Calls

structure Ended (lib : FrameLib) (w : Worker) (tee : Bool) (r : Record) : Prop where
  fate : Fate lib w tee r
  did : ∀ p x events, r = .handled p x events → ∃ a : Arrival, a.datagram = x.value ∧ Did lib tee a events

structure Feed (lib : FrameLib) (w : Worker) (tee : Bool) (s : Pipeline.State) : Prop where
  owned : Owned w s
  checked : Checked lib w tee s
  labels : ∀ p, Accounts.Kept (s.labels p)
  ended : ∀ r ∈ s.history, Ended lib w tee r

inductive Turn (lib : FrameLib) (w : Worker) (tee : Bool) (s s' : Pipeline.State) :
    Pipeline.Action → List Record → Prop where
  | stay {a more} (quiet : ∀ {ι : Type} [DecidableEq ι] (unsaid : ι × Nat → List Call) i ended,
        nextUnsaid lib w unsaid i s' ended a = unsaid)
      (same : stage s' = stage s) (plain : ∀ r ∈ more, ∃ reason x events, r = .dropped reason x events) :
      Turn lib w tee s s' a more
  | release {p} (low : p < Pipeline.procs w) (held : stage s p = .closed)
      (now : stage s' = Function.update (stage s) p .idle) : Turn lib w tee s s' (.release p) []
  | take {p d} (low : p < Pipeline.procs w) (idle : stage s p = .idle)
      (now : stage s' = Function.update (stage s) p (.opened d))
      (opens : atFirst lib w s' p = opening lib tee d) : Turn lib w tee s s' (.take p) []
  | handle {p fault time x events} (low : p < Pipeline.procs w) (held : stage s p = .opened x.value)
      (now : stage s' = Function.update (stage s) p .closed)
      (opens : beforeStore events = opening lib tee x.value) (closes : Owes lib tee .closed (behindStore events)) :
      Turn lib w tee s s' (.handle p fault time) [.handled p x events]

section Feeds
variable {lib : FrameLib} {w : Worker} {tee : Bool} {s s' : Pipeline.State}

theorem initFeed (b : Backend) : Feed lib w tee (Pipeline.init w tee b) where
  owned := Pipeline.initOwned w tee b
  checked := Pipeline.initChecked b
  labels _ := .inl rfl
  ended := nofun

theorem stageSet (s : Pipeline.State) {p : Nat} (hand : Pipeline.Hand) (mem : s'.mem = s.mem)
    (hands : s'.hands = Function.update s.hands p hand) :
    stage s' = Function.update (stage s) p (stageOf s.mem hand) := by
  funext k
  by_cases same : k = p
  · subst same
    simp [stage, mem, hands]
  · simp [stage, mem, hands, same]

theorem Feed.handling (h : Feed lib w tee s) {p slot : Nat} (held : s.hands p = .holding slot) (fault : Fault)
    (now : Int) :
    Did lib tee ⟨(s.mem slot).value, s.backend, fault, now⟩ (s.handled lib w p slot fault now).1 ∧
      Accounts.Kept (s.handled lib w p slot fault now).2.2 := by
  have whole := h.checked.held p slot held
  have same : (⟨Pipeline.slotBytes (s.mem slot).value, (s.mem slot).value.source⟩ : Datagram) =
      (s.mem slot).value := by
    rw [Pipeline.slotBytesAll whole.1]
  simp only [Pipeline.State.handled, same]
  obtain ⟨did, kept, -⟩ := Accounts.handleDid (w := w) (a := ⟨(s.mem slot).value, s.backend, fault, now⟩)
    (h.labels p) (h.checked.sockets p)
  exact ⟨did, kept⟩

theorem Feed.along (h : Feed lib w tee s) {a : Pipeline.Action} (stepped : Pipeline.step lib w tee s a = some s')
    (labels : s'.labels = s.labels)
    (plain : ∀ r ∈ s'.history, r ∈ s.history ∨ ∃ reason x events, r = .dropped reason x events) :
    Feed lib w tee s' := by
  have checked := Pipeline.stepChecked h.owned h.checked stepped
  refine ⟨Pipeline.stepOwned h.owned stepped, checked, ?_, ?_⟩
  · rw [labels]
    exact h.labels
  · intro r mem
    rcases plain r mem with old | ⟨reason, x, events, rfl⟩
    · exact h.ended r old
    · exact ⟨checked.fates _ mem, nofun⟩

theorem stepFeed {a : Pipeline.Action} (h : Feed lib w tee s) (stepped : Pipeline.step lib w tee s a = some s') :
    Feed lib w tee s' := by
  cases Pipeline.stepTook lib w tee stepped with
  | outside | cancel | read | leave | endBatch | push | block | resume | refill | take | release | exit =>
    exact h.along stepped rfl fun r mem => .inl mem
  | skip | timeout =>
    refine h.along stepped rfl fun r mem => ?_
    rcases List.mem_cons.mp mem with rfl | old
    · exact .inr ⟨_, _, _, rfl⟩
    · exact .inl old
  | giveUp here cancelled =>
    refine h.along stepped rfl fun r mem => ?_
    rcases List.mem_append.mp mem with isNew | old
    · obtain ⟨k, -, rfl⟩ := List.mem_map.mp (List.mem_reverse.mp isNew)
      exact .inr ⟨_, _, _, rfl⟩
    · exact .inl old
  | @handle p fault now slot low held =>
    have checked := Pipeline.stepChecked h.owned h.checked stepped
    obtain ⟨did, kept⟩ := h.handling held fault now
    refine ⟨Pipeline.stepOwned h.owned stepped, checked, ?_, ?_⟩
    · intro k
      by_cases mine : k = p
      · subst mine
        simpa using kept
      · simpa [mine] using h.labels k
    · intro r mem
      rcases List.mem_cons.mp mem with rfl | old
      · refine ⟨checked.fates _ mem, fun _ _ _ is => ?_⟩
        cases is
        exact ⟨_, rfl, did⟩
      · exact h.ended r old

theorem stepTurn {a : Pipeline.Action} (h : Feed lib w tee s) (stepped : Pipeline.step lib w tee s a = some s') :
    ∃ more, s'.history = more ++ s.history ∧ Turn lib w tee s s' a more := by
  have later := stepFeed h stepped
  cases Pipeline.stepTook lib w tee stepped with
  | outside | cancel | leave | endBatch | push | block | resume | refill =>
    exact ⟨[], rfl, .stay (fun _ _ _ => rfl) rfl nofun⟩
  | @read datagrams batch top fits =>
    refine ⟨[], rfl, .stay (fun _ _ _ => rfl) ?_ nofun⟩
    funext p
    cases hand : s.hands p with
    | idle | exited | spent slot => simp [stage, hand, stageOf]
    | holding slot =>
      have keeps : Pipeline.fill s.mem (batch.take datagrams.length) (ShardedQueues.stamped s.clock datagrams) slot =
          s.mem slot := h.owned.readKeeps top (.inr (Pipeline.heldSlot (by rw [hand]; rfl)))
      simp [stage, hand, stageOf, keeps]
  | skip | timeout =>
    refine ⟨[_], rfl, .stay (fun _ _ _ => rfl) rfl fun r mem => ?_⟩
    cases List.mem_singleton.mp mem
    exact ⟨_, _, _, rfl⟩
  | giveUp =>
    refine ⟨_, rfl, .stay (fun _ _ _ => rfl) rfl fun r mem => ?_⟩
    obtain ⟨k, -, rfl⟩ := List.mem_map.mp (List.mem_reverse.mp mem)
    exact ⟨_, _, _, rfl⟩
  | @take p slot rest low idle next =>
    have hand : ({ s with queues := Function.update s.queues p rest }.setHand p (.holding slot)).hands p =
        .holding slot := Function.update_self ..
    refine ⟨[], rfl, .take low (by simp [stage, idle, stageOf]) (stageSet s (.holding slot) rfl rfl) ?_⟩
    simp only [atFirst, hand]
    exact (didOpens (later.handling hand .none 0).1).1
  | @handle p fault now slot low held =>
    obtain ⟨opens, closes⟩ := didOpens (h.handling held fault now).1
    exact ⟨[_], rfl, .handle low (by simp [stage, held, stageOf]) (stageSet s (.spent slot) rfl rfl) opens closes⟩
  | @release p slot low held =>
    exact ⟨[], rfl, .release low (by simp [stage, held, stageOf]) (stageSet s .idle rfl rfl)⟩
  | @exit p batch low closed idle none =>
    refine ⟨[], rfl, .stay (fun _ _ _ => rfl) ?_ nofun⟩
    have now : stage (s.setHand p .exited) = Function.update (stage s) p .idle := stageSet s .exited rfl rfl
    rw [now]
    exact Function.update_eq_self_iff.mpr (by simp [stage, idle, stageOf])

theorem freshIs {more : List Record} (grown : s'.history = more ++ s.history) : fresh s s' = more.reverse := by
  rw [fresh, grown, List.length_append, Nat.add_sub_cancel, List.take_left]

end Feeds

/- Not counted by anything: a datagram of no bytes, and what is left of a batch when the receive
loop is told to stop while it waits. -/
def silent : Record → Bool
  | .dropped .empty _ _ | .dropped .abandoned _ _ => true
  | _ => false

def unstamped (lib : FrameLib) (tee : Bool) : Record → Bool
  | .handled _ x _ => Accounts.unstamped lib tee x.value
  | _ => false

def storesFrom (lib : FrameLib) (tee : Bool) (src : Label) : Record → Nat
  | .handled _ x events =>
    if ownSource lib tee x.value = src then events.countP (Accounts.Event.stores false) else 0
  | _ => 0

structure Adds (lib : FrameLib) (tee : Bool) (r : Record) : Prop where
  one : (said (eventsOf r)).countP isVerdict + (silent r).toNat = 1
  received : (said (eventsOf r)).count .framesReceived = (said (eventsOf r)).count .framesCached +
    (said (eventsOf r)).count .cacheErrors + (unstamped lib tee r).toNat
  stored : (said (eventsOf r)).countP isStored = (said (eventsOf r)).count .framesCached
  bySource : ∀ src, (said (eventsOf r)).count (.cacheStored ⟨src⟩) = storesFrom lib tee src r

theorem verdictParts (entries : List (Instrument × Nat)) :
    entered isVerdict entries = balance entries (.framesDropped .truncated) +
      balance entries (.framesDropped .queueFull) + balance entries (.framesDropped .teeDecapError) +
      balance entries (.framesDropped .decodeError) + balance entries .framesReceived := by
  induction entries with
  | nil => rfl
  | cons e rest ih =>
    obtain ⟨x, n⟩ := e
    unfold balance at ih ⊢
    simp only [enteredCons, ih]
    cases x with
    | framesDropped reason => cases reason <;> simp [isVerdict] <;> omega
    | framesReceived | framesCached | cacheErrors | teeDatagrams _ | cacheStored _ =>
      simp [isVerdict] <;> omega

theorem verdictCounts (xs : List Instrument) :
    xs.countP isVerdict = xs.count (.framesDropped .truncated) + xs.count (.framesDropped .queueFull) +
      xs.count (.framesDropped .teeDecapError) + xs.count (.framesDropped .decodeError) +
      xs.count .framesReceived := by
  have ones : ∀ q, entered q ((xs.map fun x => (x, 1)).reverse ++ []) = xs.countP q := fun q => enteredOnes q xs []
  have each : ∀ x, balance ((xs.map fun x => (x, 1)).reverse ++ []) x = xs.count x := fun x => ones _
  simp only [← ones isVerdict, ← each]
  exact verdictParts _

section Records
variable {lib : FrameLib} {w : Worker} {tee : Bool}

theorem Ended.adds {r : Record} (h : Ended lib w tee r) : Adds lib tee r := by
  cases h.fate with
  | handled low whole by' b fault now socket =>
    obtain ⟨a, same, did⟩ := h.did _ _ _ rfl
    have adds := Accounts.didAdds did
    rw [same] at adds
    refine ⟨?_, ?_, ?_, adds.bySource⟩
    · obtain ⟨none, never⟩ := adds.elsewhere
      rw [eventsOf, verdictCounts, none, never]
      simpa [silent] using adds.handled
    · rw [eventsOf, adds.received, adds.cached, adds.failed]
      rfl
    · rw [eventsOf, adds.stored, adds.cached]
  | truncated | empty | queueFull | abandoned => exact ⟨rfl, rfl, rfl, fun _ => rfl⟩

end Records

variable {ι : Type}

def logSaid (log : List (ι × Record)) : List Instrument := log.flatMap fun e => said (eventsOf e.2)

theorem logAdds {lib : FrameLib} {tee : ι → Bool} {log : List (ι × Record)} (adds : ∀ e ∈ log, Adds lib (tee e.1) e.2) :
    (logSaid log).countP isVerdict + log.countP (fun e => silent e.2) = log.length ∧
    (logSaid log).count .framesReceived = (logSaid log).count .framesCached + (logSaid log).count .cacheErrors +
      log.countP (fun e => unstamped lib (tee e.1) e.2) ∧
    (logSaid log).countP isStored = (logSaid log).count .framesCached ∧
    ∀ src, (logSaid log).count (.cacheStored ⟨src⟩) = (log.map fun e => storesFrom lib (tee e.1) src e.2).sum := by
  induction log with
  | nil => exact ⟨rfl, rfl, rfl, fun _ => rfl⟩
  | cons e rest ih =>
    obtain ⟨length, received, stored, bySource⟩ := ih fun e mem => adds e (List.mem_cons_of_mem _ mem)
    have here := adds e List.mem_cons_self
    have counts : ∀ q, (logSaid (e :: rest)).countP q = (said (eventsOf e.2)).countP q + (logSaid rest).countP q := by
      intro q
      rw [logSaid, List.flatMap_cons, List.countP_append]
      rfl
    have count : ∀ x, (logSaid (e :: rest)).count x = (said (eventsOf e.2)).count x + (logSaid rest).count x :=
      fun x => counts _
    have next : ∀ p : ι × Record → Bool, (e :: rest).countP p = rest.countP p + (p e).toNat := by
      intro p
      rw [List.countP_cons]
      cases p e <;> rfl
    refine ⟨?_, ?_, ?_, fun src => ?_⟩
    · have one := here.one
      rw [counts, next, List.length_cons]
      omega
    · have some := here.received
      rw [count, count, count, next]
      omega
    · rw [counts, count, here.stored, stored]
    · rw [count, here.bySource, bySource, List.map_cons, List.sum_cons]

variable [DecidableEq ι]

def ofFeed (i : ι) (log : List (ι × Record)) : List Record :=
  log.filterMap fun e => if e.1 = i then some e.2 else none

def just (x : Instrument) : Instrument → Bool := fun y => decide (y = x)

def counted (q : Instrument → Bool) (calls : List Call) : Nat := calls.countP fun c => q c.instrument

def places [Fintype ι] (w : Worker) : Finset (ι × Nat) := Finset.univ ×ˢ Finset.range (Pipeline.procs w)

def openedOf (lib : FrameLib) (tee : Bool) : Stage → List Call
  | .opened d => opening lib tee d
  | _ => []

def openings (lib : FrameLib) (tee : ι → Bool) (s : State ι) (k : ι × Nat) : List Call :=
  openedOf lib (tee k.1) (stage (s.feeds k.1) k.2)

structure Kept [Fintype ι] (lib : FrameLib) (w : Worker) (tee : ι → Bool) (s : State ι) : Prop where
  feeds : ∀ i, Feed lib w (tee i) (s.feeds i)
  sound : Accounts.Sound s.recorder
  owes : ∀ i p, Owes lib (tee i) (stage (s.feeds i) p) (s.unsaid (i, p))
  balanced : ∀ q, entered q s.recorder.adds + ∑ k ∈ places w, counted q (s.unsaid k) =
    (logSaid s.log).countP q + ∑ k ∈ places w, counted q (openings lib tee s k)
  within : ∀ i p, s.unsaid (i, p) ≠ [] → p < Pipeline.procs w
  histories : ∀ i, ofFeed i s.log = (s.feeds i).history

section Keeps
variable {lib : FrameLib} {w : Worker} {tee : ι → Bool} {s s' : State ι}

theorem ofFeedEntered (i k : ι) (more : List Record) (log : List (ι × Record)) :
    ofFeed k ((more.map fun r => (i, r)) ++ log) = (if i = k then more else []) ++ ofFeed k log := by
  rw [ofFeed, List.filterMap_append, List.filterMap_map]
  congr 1
  by_cases mine : i = k <;> simp [mine]

inductive Moved (lib : FrameLib) (w : Worker) (tee : ι → Bool) (s : State ι) : Action ι → State ι → Prop where
  | say {i p c rest} (next : s.unsaid (i, p) = c :: rest) :
      Moved lib w tee s (.say i p)
        { s with unsaid := Function.update s.unsaid (i, p) rest, recorder := s.recorder.call c }
  | feed {i a next more} (may : ready s.unsaid i a = true)
      (moved : Pipeline.step lib w (tee i) (s.feeds i) a = some next)
      (grown : next.history = more ++ (s.feeds i).history) (turn : Turn lib w (tee i) (s.feeds i) next a more) :
      Moved lib w tee s (.feed i a) ⟨Function.update s.feeds i next, nextUnsaid lib w s.unsaid i next more.reverse a,
        (more.reverse.flatMap atOnce).foldl Recorder.call s.recorder, more.map (fun r => (i, r)) ++ s.log⟩

theorem stepMoved {a : Action ι} (feeds : ∀ i, Feed lib w (tee i) (s.feeds i))
    (stepped : step lib w tee s a = some s') : Moved lib w tee s a s' := by
  cases a with
  | say i p =>
    simp only [step] at stepped
    split at stepped <;> try contradiction
    cases Option.some.inj stepped
    exact .say (by assumption)
  | feed i a =>
    simp only [step] at stepped
    split at stepped <;> try contradiction
    rename_i may
    obtain ⟨next, moved, same⟩ := Option.bind_eq_some_iff.mp stepped
    obtain ⟨more, grown, turn⟩ := stepTurn (feeds i) moved
    rw [freshIs grown, List.map_reverse, List.reverse_reverse] at same
    cases Option.some.inj same
    exact .feed may moved grown turn

end Keeps

section Balance
variable {lib : FrameLib} {w : Worker} {tee : ι → Bool} {s s' : State ι}

omit [DecidableEq ι] in
theorem placed [Fintype ι] {i : ι} {p : Nat} (low : p < Pipeline.procs w) : (i, p) ∈ places (ι := ι) w :=
  Finset.mem_product.mpr ⟨Finset.mem_univ i, Finset.mem_range.mpr low⟩

theorem openingsSet {i : ι} {next : Pipeline.State} {p : Nat} {st : Stage}
    (now : stage next = Function.update (stage (s.feeds i)) p st) (feeds : s'.feeds = Function.update s.feeds i next) :
    openings lib tee s' = Function.update (openings lib tee s) (i, p) (openedOf lib (tee i) st) := by
  funext k
  obtain ⟨j, n⟩ := k
  by_cases mine : j = i
  · subst mine
    by_cases same : n = p
    · subst same
      simp [openings, feeds, now]
    · simp [openings, feeds, now, same]
  · simp [openings, feeds, mine]

theorem openingsStay {i : ι} {next : Pipeline.State} (same : stage next = stage (s.feeds i))
    (feeds : s'.feeds = Function.update s.feeds i next) : openings lib tee s' = openings lib tee s := by
  funext k
  obtain ⟨j, n⟩ := k
  by_cases mine : j = i
  · subst mine
    simp [openings, feeds, same]
  · simp [openings, feeds, mine]

omit [DecidableEq ι] in
theorem logEntered (i : ι) (more : List Record) (log : List (ι × Record)) (q : Instrument → Bool) :
    (logSaid (more.map (fun r => (i, r)) ++ log)).countP q =
      (logSaid log).countP q + (more.map fun r => (said (eventsOf r)).countP q).sum := by
  rw [logSaid, List.flatMap_append, List.countP_append, List.flatMap_map, List.countP_flatMap, Nat.add_comm]
  rfl

theorem droppedSaid {more : List Record} (plain : ∀ r ∈ more, ∃ reason x events, r = .dropped reason x events)
    (q : Instrument → Bool) :
    counted q (more.reverse.flatMap atOnce) = (more.map fun r => (said (eventsOf r)).countP q).sum := by
  rw [counted, List.countP_flatMap, List.map_reverse, List.sum_reverse]
  refine congrArg List.sum (List.map_congr_left fun r mem => ?_)
  obtain ⟨reason, x, events, rfl⟩ := plain r mem
  exact (Accounts.saidCalls events q).symm

variable [Fintype ι]

theorem Kept.owesOn (h : Kept lib w tee s) {i : ι} {next : Pipeline.State} {p : Nat} {st : Stage} {calls : List Call}
    (now : stage next = Function.update (stage (s.feeds i)) p st) (mine : Owes lib (tee i) st calls) (j : ι) (n : Nat) :
    Owes lib (tee j) (stage (Function.update s.feeds i next j) n) (Function.update s.unsaid (i, p) calls (j, n)) := by
  have before := h.owes j n
  by_cases same : j = i
  · subst same
    by_cases here : n = p
    · subst here
      simpa [now] using mine
    · simpa [now, here] using before
  · simpa [same] using before

theorem Kept.withinOn (h : Kept lib w tee s) {i : ι} {p : Nat} {calls : List Call} (low : p < Pipeline.procs w)
    (j : ι) (n : Nat) (some' : Function.update s.unsaid (i, p) calls (j, n) ≠ []) : n < Pipeline.procs w := by
  by_cases here : (j, n) = (i, p)
  · cases here
    exact low
  · rw [Function.update_of_ne here] at some'
    exact h.within j n some'

theorem Kept.feedsOn (h : Kept lib w tee s) {i : ι} {a : Pipeline.Action} {next : Pipeline.State}
    (moved : Pipeline.step lib w (tee i) (s.feeds i) a = some next) (j : ι) :
    Feed lib w (tee j) (Function.update s.feeds i next j) := by
  by_cases mine : j = i
  · subst mine
    simpa using stepFeed (h.feeds j) moved
  · simpa [mine] using h.feeds j

theorem Kept.historiesOn (h : Kept lib w tee s) {i : ι} {next : Pipeline.State} {more : List Record}
    (grown : next.history = more ++ (s.feeds i).history) (j : ι) :
    ofFeed j (more.map (fun r => (i, r)) ++ s.log) = (Function.update s.feeds i next j).history := by
  rw [ofFeedEntered, h.histories j]
  by_cases mine : i = j
  · subst mine
    simp [grown]
  · simp [mine, Ne.symm mine]

theorem Kept.say (h : Kept lib w tee s) {i : ι} {p : Nat} {c : Call} {rest : List Call}
    (next : s.unsaid (i, p) = c :: rest) :
    Kept lib w tee { s with unsaid := Function.update s.unsaid (i, p) rest, recorder := s.recorder.call c } := by
  obtain ⟨sound, adds⟩ := Accounts.called h.sound c
  have low := h.within i p (by rw [next]; exact List.cons_ne_nil _ _)
  have still : stage (s.feeds i) = Function.update (stage (s.feeds i)) p (stage (s.feeds i) p) :=
    (Function.update_eq_self p _).symm
  refine ⟨h.feeds, sound, ?_, fun q => ?_, h.withinOn low, h.histories⟩
  · have owed := h.owesOn still ((next ▸ h.owes i p).rest)
    simpa only [Function.update_eq_self] using owed
  · have unsaid := sumUpdate (placed (i := i) low) s.unsaid rest (counted q)
    have before := h.balanced q
    have first : counted q (s.unsaid (i, p)) = counted q rest + if q c.instrument then 1 else 0 := by
      rw [next, counted, counted, List.countP_cons]
    have made : entered q (s.recorder.call c).adds = (if q c.instrument then 1 else 0) + entered q s.recorder.adds := by
      rw [adds, enteredCons]
    have same : openings lib tee { s with
        unsaid := Function.update s.unsaid (i, p) rest, recorder := s.recorder.call c } = openings lib tee s := rfl
    rw [same, made]
    dsimp only
    omega

theorem Kept.stay (h : Kept lib w tee s) {i : ι} {a : Pipeline.Action} {next : Pipeline.State} {more : List Record}
    (moved : Pipeline.step lib w (tee i) (s.feeds i) a = some next)
    (grown : next.history = more ++ (s.feeds i).history) (same : stage next = stage (s.feeds i))
    (plain : ∀ r ∈ more, ∃ reason x events, r = .dropped reason x events) :
    Kept lib w tee ⟨Function.update s.feeds i next, s.unsaid,
      (more.reverse.flatMap atOnce).foldl Recorder.call s.recorder, more.map (fun r => (i, r)) ++ s.log⟩ := by
  obtain ⟨sound, adds⟩ := Accounts.calledAll h.sound (more.reverse.flatMap atOnce)
  have still : stage next = Function.update (stage (s.feeds i)) 0 (stage (s.feeds i) 0) := by
    rw [same, Function.update_eq_self]
  refine ⟨h.feedsOn moved, sound, ?_, fun q => ?_, h.within, h.historiesOn grown⟩
  · have owed := h.owesOn still (h.owes i 0)
    simpa only [Function.update_eq_self] using owed
  · have before := h.balanced q
    have drops : _ = counted q (more.reverse.flatMap atOnce) := (droppedSaid plain q).symm
    rw [openingsStay (s := s) same rfl, adds, logEntered, drops, counted]
    dsimp only
    omega

theorem Kept.turn (h : Kept lib w tee s) {i : ι} {a : Pipeline.Action} {next : Pipeline.State} {more : List Record}
    {p : Nat} {st : Stage} {calls : List Call} (moved : Pipeline.step lib w (tee i) (s.feeds i) a = some next)
    (grown : next.history = more ++ (s.feeds i).history) (low : p < Pipeline.procs w)
    (now : stage next = Function.update (stage (s.feeds i)) p st) (owed : Owes lib (tee i) st calls)
    (quiet : more.reverse.flatMap atOnce = [])
    (even : ∀ q, counted q calls + counted q (openedOf lib (tee i) (stage (s.feeds i) p)) =
      (more.map fun r => (said (eventsOf r)).countP q).sum + counted q (openedOf lib (tee i) st) +
        counted q (s.unsaid (i, p))) :
    Kept lib w tee ⟨Function.update s.feeds i next, Function.update s.unsaid (i, p) calls,
      (more.reverse.flatMap atOnce).foldl Recorder.call s.recorder, more.map (fun r => (i, r)) ++ s.log⟩ := by
  rw [quiet]
  refine ⟨h.feedsOn moved, h.sound, h.owesOn now owed, fun q => ?_, h.withinOn low, h.historiesOn grown⟩
  have unsaid := sumUpdate (placed (i := i) low) s.unsaid calls (counted q)
  have opened : _ + counted q (openedOf lib (tee i) (stage (s.feeds i) p)) = _ :=
    sumUpdate (placed (i := i) low) (openings lib tee s) (openedOf lib (tee i) st) (counted q)
  have before := h.balanced q
  have here := even q
  rw [openingsSet (s := s) now rfl, logEntered]
  simp only [List.foldl_nil]
  omega

theorem stepKept {a : Action ι} (h : Kept lib w tee s) (stepped : step lib w tee s a = some s') :
    Kept lib w tee s' := by
  cases stepMoved h.feeds stepped with
  | say next => exact h.say next
  | @feed i a next more may moved grown turn =>
    cases turn with
    | stay quiet same plain =>
      rw [quiet]
      exact h.stay moved grown same plain
    | @release p low held now =>
      have none : s.unsaid (i, p) = [] := List.isEmpty_iff.mp may
      have same : nextUnsaid lib w s.unsaid i next [] (.release p) = Function.update s.unsaid (i, p) [] := by
        rw [← none, Function.update_eq_self]
        rfl
      rw [List.reverse_nil, same]
      refine h.turn moved grown low now .idle rfl fun q => ?_
      rw [held, none]
      rfl
    | @take p d low idle now opens =>
      have owed := h.owes i p
      rw [idle] at owed
      refine h.turn moved grown low now (opens ▸ openingOwed lib (tee i) d) rfl fun q => ?_
      rw [idle, owed.none, opens]
      simp [openedOf, counted]
    | @handle p fault time x events low held now opens closes =>
      have none : s.unsaid (i, p) = [] := List.isEmpty_iff.mp may
      have calls : [Record.handled p x events].reverse.flatMap afterwards = behindStore events := by
        simp [afterwards]
      refine h.turn moved grown low now (calls ▸ closes) rfl fun q => ?_
      have split : (said events).countP q = counted q (opening lib (tee i) x.value) + counted q (behindStore events) := by
        rw [Accounts.saidCalls, ← storeSplits, List.countP_append, opens]
        rfl
      rw [held, none, calls]
      simp [openedOf, counted, eventsOf] at split ⊢
      omega

theorem initKept (b : Backend) (sources : List Label) : Kept lib w tee (init w tee b sources) := by
  obtain ⟨options, entries⟩ := Accounts.preCreated sources Recorder.new
  refine ⟨fun _ => initFeed b, ?_, fun _ _ => .idle, fun q => ?_, fun _ _ none => absurd rfl none, fun _ => rfl⟩
  · intro m there
    rw [init, options] at there
    cases there
  · have none : entered q (init w tee b sources).recorder.adds = 0 := entries q
    have open' : ∀ k, counted q (openings lib tee (init w tee b sources) k) = 0 := fun _ => rfl
    have unsaid : ∀ k, counted q ((init w tee b sources).unsaid k) = 0 := fun _ => rfl
    simp only [none, open', unsaid]
    rfl

theorem keptReached {b : Backend} {sources : List Label} {acts : List (Action ι)}
    (ran : run (step lib w tee) (init w tee b sources) acts = some s) : Kept lib w tee s :=
  invariant (fun _ _ _ kept stepped => stepKept kept stepped) (initKept b sources) ran

end Balance

theorem feedReached {lib : FrameLib} {w : Worker} {tee : ι → Bool} {s : State ι} {b : Backend} {sources : List Label}
    {acts : List (Action ι)} (ran : run (step lib w tee) (init w tee b sources) acts = some s) (i : ι) :
    ∃ acts', run (Pipeline.step lib w (tee i)) (Pipeline.init w (tee i) b) acts' = some (s.feeds i) := by
  have maps : ∀ (s : State ι) (a : Action ι) (s' : State ι), True → step lib w tee s a = some s' →
      s'.feeds i = s.feeds i ∨ ∃ c, Pipeline.step lib w (tee i) (s.feeds i) c = some (s'.feeds i) := by
    intro s a s' _ stepped
    cases a with
    | say j p =>
      simp only [step] at stepped
      split at stepped <;> try contradiction
      cases Option.some.inj stepped
      exact .inl rfl
    | feed j a =>
      simp only [step] at stepped
      split at stepped <;> try contradiction
      obtain ⟨next, moved, same⟩ := Option.bind_eq_some_iff.mp stepped
      cases Option.some.inj same
      by_cases mine : i = j
      · subst mine
        exact .inr ⟨a, by simpa using moved⟩
      · exact .inl (Function.update_of_ne mine ..)
  exact refines (fun _ _ _ _ _ => trivial) maps trivial ran

theorem lengthsOf [Fintype ι] (log : List (ι × Record)) : ∑ i, (ofFeed i log).length = log.length := by
  induction log with
  | nil => simp [ofFeed]
  | cons e rest ih =>
    have next : ∀ i, (ofFeed i (e :: rest)).length = (ofFeed i rest).length + if e.1 = i then 1 else 0 := by
      intro i
      by_cases mine : e.1 = i <;> simp [ofFeed, mine]
    simp only [next, Finset.sum_add_distrib, ih, Finset.sum_ite_eq, Finset.mem_univ, if_true, List.length_cons]

def waiting (w : Worker) (s : Pipeline.State) : Nat :=
  s.pc.todo.length + ∑ q ∈ Finset.range (Pipeline.procs w), (s.queues q).length

def undecided (unsaid : List Call) : Nat := counted isVerdict unsaid

def between (lib : FrameLib) (tee : Bool) (unsaid : List Call) : Stage → Nat
  | .opened d => if unsaid = [] ∧ verdict lib tee d = .framesReceived then 1 else 0
  | _ => unsaid.count (.plain .framesCached) + unsaid.count (.plain .cacheErrors)

def halfway : List Call → Nat
  | [.stored _] => 1
  | _ => 0

def isOpened : Stage → Nat
  | .opened _ => 1
  | _ => 0

section Places
variable {lib : FrameLib} {tee : Bool} {st : Stage} {calls : List Call}

theorem verdictIs (lib : FrameLib) (tee : Bool) (d : Datagram) : verdict lib tee d = .framesReceived ∨
    verdict lib tee d = .framesDropped .teeDecapError ∨ verdict lib tee d = .framesDropped .decodeError := by
  unfold verdict
  split
  · exact .inr (.inl rfl)
  · split
    · exact .inl rfl
    · exact .inr (.inr rfl)

theorem openedCount {q : Instrument → Bool} (quiet : ∀ form, q (.teeDatagrams form) = false) (d : Datagram) :
    counted q (opening lib tee d) = if q (verdict lib tee d) then 1 else 0 := by
  have note : ((Accounts.noted lib tee d.bytes).flatMap callsOf).countP (fun c => q c.instrument) = 0 := by
    rcases notedOpens lib tee d.bytes with none | ⟨form, one⟩
    · rw [none]
      rfl
    · rw [one, List.countP_singleton, Call.instrument, quiet]
      rfl
  rw [counted, opening, List.countP_append, List.countP_singleton]
  split
  · rw [note, Nat.zero_add]
    rfl
  · rw [List.countP_nil, Nat.zero_add]
    rfl

theorem openedVerdict (lib : FrameLib) (tee : Bool) (st : Stage) :
    counted isVerdict (openedOf lib tee st) = isOpened st := by
  cases st with
  | idle | closed => rfl
  | opened d =>
    rw [openedOf, openedCount fun _ => rfl]
    rcases verdictIs lib tee d with is | is | is <;> simp [is, isVerdict, isOpened]

theorem openedNone {q : Instrument → Bool} (quiet : ∀ form, q (.teeDatagrams form) = false)
    (never : ∀ x, isVerdict x = true → q x = false) (st : Stage) : counted q (openedOf lib tee st) = 0 := by
  cases st with
  | idle | closed => rfl
  | opened d =>
    rw [openedOf, openedCount quiet]
    have plain : isVerdict (verdict lib tee d) = true := by
      rcases verdictIs lib tee d with is | is | is <;> rw [is] <;> rfl
    simp [never _ plain]

theorem owesReceived (h : Owes lib tee st calls) :
    counted (just .framesReceived) (openedOf lib tee st) +
        counted (just .framesCached) calls + counted (just .cacheErrors) calls =
      counted (just .framesReceived) calls + between lib tee calls st := by
  cases h with
  | idle | closed | failed | cached | halfway => rfl
  | @opened d =>
    rw [openedOf, openedCount fun _ => rfl]
    rcases verdictIs lib tee d with is | is | is <;> simp [counted, between, just, is]
  | @verdict d =>
    rw [openedOf, openedCount fun _ => rfl]
    rcases verdictIs lib tee d with is | is | is <;> simp [counted, between, just, is, Call.instrument]
  | @noted d form =>
    rw [openedOf, openedCount fun _ => rfl]
    rcases verdictIs lib tee d with is | is | is <;> simp [counted, between, just, is, Call.instrument]

theorem owesStored (h : Owes lib tee st calls) :
    counted isStored calls = counted (just .framesCached) calls + halfway calls := by
  cases h with
  | idle | closed | failed | cached | halfway | opened => rfl
  | @verdict d => rcases verdictIs lib tee d with is | is | is <;> rw [is] <;> rfl
  | @noted d form => rcases verdictIs lib tee d with is | is | is <;> rw [is] <;> rfl

theorem owesFew (h : Owes lib tee st calls) :
    undecided calls + between lib tee calls st ≤ 1 ∧ halfway calls ≤ 1 := by
  cases h with
  | idle | closed | failed | cached | halfway =>
    simp [undecided, counted, between, halfway, isVerdict, Call.instrument]
  | @opened d | @verdict d | @noted d form =>
    rcases verdictIs lib tee d with is | is | is <;>
      simp [undecided, counted, between, halfway, is, isVerdict, Call.instrument]

theorem pendingCard (w : Worker) (s : Pipeline.State) : (Pipeline.pending w s).card =
    waiting w s + ∑ p ∈ Finset.range (Pipeline.procs w), isOpened (stage s p) := by
  have hands : ∀ p, ((Option.toList ∘ (Pipeline.flow s).hands) p).length = isOpened (stage s p) := by
    intro p
    simp only [Pipeline.flow, Function.comp_apply, stage]
    cases s.hands p <;> rfl
  simp only [Pipeline.pending, Multiset.card_add, cardGathered, hands, waiting]
  simp [Pipeline.flow]

end Places

structure Accounted [Fintype ι] (lib : FrameLib) (w : Worker) (tee : ι → Bool) (s : State ι) : Prop where
  read : ∑ i, (s.feeds i).received.length =
    s.recorder.added (.framesDropped .truncated) + s.recorder.added (.framesDropped .queueFull) +
      s.recorder.added (.framesDropped .teeDecapError) + s.recorder.added (.framesDropped .decodeError) +
      s.recorder.added .framesReceived + s.log.countP (fun e => silent e.2) +
      ∑ i, waiting w (s.feeds i) + ∑ k ∈ places w, undecided (s.unsaid k)
  received : s.recorder.added .framesReceived =
    s.recorder.added .framesCached + s.recorder.added .cacheErrors +
      s.log.countP (fun e => unstamped lib (tee e.1) e.2) +
      ∑ k ∈ places w, between lib (tee k.1) (s.unsaid k) (stage (s.feeds k.1) k.2)
  stored : s.recorder.added .framesCached =
    ∑ src ∈ s.recorder.sources, s.recorder.added (.cacheStored ⟨src⟩) + ∑ k ∈ places w, halfway (s.unsaid k)
  bySource : ∀ src, s.recorder.added (.cacheStored ⟨src⟩) + ∑ k ∈ places w, (s.unsaid k).count (.stored src) =
    (s.log.map fun e => storesFrom lib (tee e.1) src e.2).sum
  few : ∀ i p, undecided (s.unsaid (i, p)) +
      between lib (tee i) (s.unsaid (i, p)) (stage (s.feeds i) p) ≤ 1 ∧ halfway (s.unsaid (i, p)) ≤ 1
  abandoned : ∀ i x events, (i, .dropped .abandoned x events) ∈ s.log → (s.feeds i).cancelled = true

section Reached
variable [Fintype ι] {lib : FrameLib} {w : Worker} {tee : ι → Bool} {s : State ι}

theorem Kept.inFeed (h : Kept lib w tee s) {i : ι} {r : Record} (mem : (i, r) ∈ s.log) : r ∈ (s.feeds i).history := by
  rw [← h.histories i]
  exact List.mem_filterMap.mpr ⟨_, mem, if_pos rfl⟩

theorem Kept.adds (h : Kept lib w tee s) : ∀ e ∈ s.log, Adds lib (tee e.1) e.2 :=
  fun e mem => ((h.feeds e.1).ended e.2 (h.inFeed mem)).adds

theorem Kept.each (h : Kept lib w tee s) (x : Instrument) :
    s.recorder.added x + ∑ k ∈ places w, counted (just x) (s.unsaid k) =
      (logSaid s.log).count x + ∑ k ∈ places w, counted (just x) (openings lib tee s k) :=
  h.balanced (just x)

omit [DecidableEq ι] in
theorem unopened {q : Instrument → Bool} (quiet : ∀ form, q (.teeDatagrams form) = false)
    (never : ∀ x, isVerdict x = true → q x = false) : ∑ k ∈ places w, counted q (openings lib tee s k) = 0 :=
  Finset.sum_eq_zero fun _ _ => openedNone quiet never _

theorem Kept.closing (h : Kept lib w tee s) {x : Instrument} (quiet : ∀ form, x ≠ .teeDatagrams form)
    (never : isVerdict x = false) :
    s.recorder.added x + ∑ k ∈ places w, counted (just x) (s.unsaid k) = (logSaid s.log).count x := by
  have none : ∑ k ∈ places w, counted (just x) (openings lib tee s k) = 0 := by
    refine unopened (fun form => decide_eq_false (Ne.symm (quiet form))) fun y plain => decide_eq_false ?_
    rintro rfl
    rw [never] at plain
    cases plain
  rw [h.each, none, Nat.add_zero]

theorem Kept.received (h : Kept lib w tee s) : s.recorder.added .framesReceived =
    s.recorder.added .framesCached + s.recorder.added .cacheErrors +
      s.log.countP (fun e => unstamped lib (tee e.1) e.2) +
      ∑ k ∈ places w, between lib (tee k.1) (s.unsaid k) (stage (s.feeds k.1) k.2) := by
  have logged := (logAdds h.adds).2.1
  have opens := h.each .framesReceived
  have cached := h.closing (x := .framesCached) nofun rfl
  have failed := h.closing (x := .cacheErrors) nofun rfl
  have places : ∑ k ∈ places w, _ = ∑ k ∈ places w, _ := Finset.sum_congr rfl fun k _ => owesReceived (h.owes k.1 k.2)
  simp only [Finset.sum_add_distrib, Prod.mk.eta] at places
  simp only [openings] at opens
  omega

theorem Kept.stored (h : Kept lib w tee s) : s.recorder.added .framesCached =
    ∑ src ∈ s.recorder.sources, s.recorder.added (.cacheStored ⟨src⟩) + ∑ k ∈ places w, halfway (s.unsaid k) := by
  have logged := (logAdds h.adds).2.2.1
  have cached := h.closing (x := .framesCached) nofun rfl
  have all := h.balanced isStored
  have none : ∑ k ∈ places w, counted isStored (openings lib tee s k) = 0 := by
    refine unopened (fun _ => rfl) fun x plain => ?_
    cases x with
    | cacheStored o => cases plain
    | _ => rfl
  have places : ∑ k ∈ places w, _ = ∑ k ∈ places w, _ := Finset.sum_congr rfl fun k _ => owesStored (h.owes k.1 k.2)
  simp only [Finset.sum_add_distrib, Prod.mk.eta] at places
  rw [Accounts.sumSources]
  omega

theorem owesSource {tee : Bool} {st : Stage} {calls : List Call} (h : Owes lib tee st calls) (src : Label) :
    counted (just (.cacheStored ⟨src⟩)) calls = calls.count (.stored src) := by
  cases h with
  | idle | closed | failed | opened => rfl
  | cached | halfway => simp [counted, just, Call.instrument, List.count_cons, List.countP_cons]
  | @verdict d | @noted d form =>
    rcases verdictIs lib tee d with is | is | is <;> simp [counted, just, is, Call.instrument]

theorem Kept.bySource (h : Kept lib w tee s) (src : Label) :
    s.recorder.added (.cacheStored ⟨src⟩) + ∑ k ∈ places w, (s.unsaid k).count (.stored src) =
      (s.log.map fun e => storesFrom lib (tee e.1) src e.2).sum := by
  rw [← (logAdds h.adds).2.2.2 src, ← h.closing (x := .cacheStored ⟨src⟩) nofun rfl]
  exact congrArg (_ + ·) (Finset.sum_congr rfl fun k _ => (owesSource (h.owes k.1 k.2) src).symm)

theorem Kept.read (h : Kept lib w tee s) {b : Backend} {sources : List Label} {acts : List (Action ι)}
    (ran : run (step lib w tee) (init w tee b sources) acts = some s) :
    ∑ i, (s.feeds i).received.length =
      s.recorder.added (.framesDropped .truncated) + s.recorder.added (.framesDropped .queueFull) +
        s.recorder.added (.framesDropped .teeDecapError) + s.recorder.added (.framesDropped .decodeError) +
        s.recorder.added .framesReceived + s.log.countP (fun e => silent e.2) +
        ∑ i, waiting w (s.feeds i) + ∑ k ∈ places w, undecided (s.unsaid k) := by
  have each : ∀ i, (s.feeds i).received.length = (ofFeed i s.log).length + (waiting w (s.feeds i) +
      ∑ p ∈ Finset.range (Pipeline.procs w), isOpened (stage (s.feeds i) p)) := by
    intro i
    obtain ⟨acts', alone⟩ := feedReached ran i
    have all := congrArg Multiset.card (Pipeline.reached alone).accounted
    rw [Multiset.card_add, Multiset.coe_card, Multiset.coe_card, List.length_map, pendingCard] at all
    rw [h.histories i, all]
  have opened : ∑ k ∈ places w, counted isVerdict (openings lib tee s k) =
      ∑ i, ∑ p ∈ Finset.range (Pipeline.procs w), isOpened (stage (s.feeds i) p) := by
    rw [places, Finset.sum_product]
    exact Finset.sum_congr rfl fun i _ => Finset.sum_congr rfl fun p _ => openedVerdict lib (tee i) _
  have logged := (logAdds h.adds).1
  have all := h.balanced isVerdict
  have parts : entered isVerdict s.recorder.adds = s.recorder.added (.framesDropped .truncated) +
      s.recorder.added (.framesDropped .queueFull) + s.recorder.added (.framesDropped .teeDecapError) +
      s.recorder.added (.framesDropped .decodeError) + s.recorder.added .framesReceived := verdictParts _
  simp only [each, Finset.sum_add_distrib, lengthsOf, ← opened, undecided]
  omega

end Reached

def mixed : List (Action Bool) :=
  [.feed false (.read [⟨plainFrame 7 9 1, none⟩, ⟨[], none⟩, ⟨[1], none⟩, ⟨plainFrame 7 9 2, none⟩]), .feed false .next,
    .feed true (.read [⟨enveloped (plainFrame 7 9 0), none⟩]), .feed false .refill, .feed false .next,
    .feed true .next, .feed false .next, .feed false .refill, .feed false .next, .feed true (.take 1),
    .feed false (.take 0), .feed false .cancel, .say true 1, .say true 1, .feed false .giveUp, .say false 0,
    .feed false (.take 1), .feed false (.handle 0 .none 0), .say false 1, .feed false (.handle 1 .none 0),
    .say false 1]

section Main
variable [Fintype ι] {lib : FrameLib} {w : Worker} {tee : ι → Bool} {s : State ι} {b : Backend} {sources : List Label}
  {acts : List (Action ι)}

/-- However the receive loops and processors of all feeds are scheduled, the Add calls account for
every datagram read: it is dropped for one of four reasons, received, still waiting for a processor
or for the processor's verdict, or one of two kinds nothing counts, an empty datagram or one left
over when its feed was told to stop. A frame received is cached, failed, unstamped or still being
stored, and what is added to framesCached is added for the datagram's own source too. Of all that
is still under way each processor has one frame at most. -/
theorem feedsAccounted (ran : run (step lib w tee) (init w tee b sources) acts = some s) :
    Accounted lib w tee s := by
  have kept := keptReached ran
  refine ⟨kept.read ran, kept.received, kept.stored, kept.bySource, fun i p => owesFew (kept.owes i p), ?_⟩
  intro i x events mem
  obtain ⟨acts', alone⟩ := feedReached ran i
  exact (Pipeline.reached alone).told x events (kept.inFeed mem)

theorem feedsAccountedMixed : ∃ s,
    run (step .plain Pipeline.pair id) (init Pipeline.pair id ExpiringStore.empty []) mixed = some s ∧
    s.recorder.added (.framesDropped .decodeError) = 1 ∧ s.recorder.added .framesReceived = 2 ∧
    s.recorder.added .framesCached = 1 ∧ s.recorder.added .cacheErrors = 0 ∧
    s.log.countP (fun e => silent e.2) = 2 ∧ Accounted .plain Pipeline.pair id s := by
  have computed : (run (step .plain Pipeline.pair id) (init Pipeline.pair id ExpiringStore.empty []) mixed).map
      (fun s => (s.recorder.added (.framesDropped .decodeError), s.recorder.added .framesReceived,
        s.recorder.added .framesCached, s.recorder.added .cacheErrors, s.log.countP fun e => silent e.2)) =
      some (1, 2, 1, 0, 2) := by
    decide +kernel
  obtain ⟨s, ran, seen⟩ := Option.map_eq_some_iff.mp computed
  simp only [Prod.mk.injEq] at seen
  obtain ⟨decode, received, cached, errors, silent⟩ := seen
  exact ⟨s, ran, decode, received, cached, errors, silent, feedsAccounted ran⟩

end Main

end RetryEndpoint.FeedAccounts
