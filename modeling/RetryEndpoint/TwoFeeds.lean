import RetryEndpoint.PipelineOrder

/-! One worker with both sockets open: Run and RunTee each start a receive loop
with queues and processors of its own over the one cache. Datagrams are stamped
in the order they are read from either socket, and the log keeps what either
socket's processors handled, in the order of their Store calls. -/
namespace RetryEndpoint.TwoFeeds
open BigEndian Ingress Wire Cache Runs Pipeline
open ShardedQueues (Item stamped InFlight)

inductive Feed where | multicast | tee deriving DecidableEq, Repr

def Feed.isTee : Feed → Bool
  | .multicast => false
  | .tee => true

def Feed.other : Feed → Feed
  | .multicast => .tee
  | .tee => .multicast

structure State where
  sockets : Feed → Pipeline.State
  backend : Backend
  clock : Nat
  log : List Record

def init (w : Worker) (b : Backend) : State := ⟨fun f => Pipeline.init w f.isTee b, b, 0, []⟩

structure Action where
  feed : Feed
  act : Pipeline.Action

def Action.inside (a : Action) : Bool := match a.act with
  | .outside .. => false
  | _ => true

def logged (a : Pipeline.Action) (s : Pipeline.State) (log : List Record) : List Record :=
  match a, s.history with
  | .handle .., r :: _ => r :: log
  | _, _ => log

def step (lib : FrameLib) (w : Worker) (d : State) (a : Action) : Option State :=
  if a.inside then do
    let s ← run (Pipeline.step lib w a.feed.isTee) (d.sockets a.feed) [.outside d.clock d.backend, a.act]
    some ⟨Function.update d.sockets a.feed s, s.backend, s.clock, logged a.act s d.log⟩
  else none

def State.socket (d : State) (f : Feed) : Pipeline.State :=
  { d.sockets f with clock := d.clock, backend := d.backend }

theorem stepSplit {lib : FrameLib} {w : Worker} {d d' : State} {a : Action}
    (ok : step lib w d a = some d') :
    a.inside = true ∧
    ∃ s, Pipeline.step lib w a.feed.isTee (d.sockets a.feed) (.outside d.clock d.backend) =
        some (d.socket a.feed) ∧
      Pipeline.step lib w a.feed.isTee (d.socket a.feed) a.act = some s ∧
      d' = ⟨Function.update d.sockets a.feed s, s.backend, s.clock, logged a.act s d.log⟩ := by
  unfold step at ok
  split at ok <;> try contradiction
  rename_i inside
  obtain ⟨s, ran, built⟩ := Option.bind_eq_some_iff.mp ok
  cases Option.some.inj built
  obtain ⟨s', synced, rest⟩ := runCons ran
  obtain ⟨s'', stepped, done⟩ := runCons rest
  cases Option.some.inj done
  cases stepTook lib w _ synced with
  | outside forward => exact ⟨inside, s, synced, stepped, rfl⟩

def Sockets (lib : FrameLib) (w : Worker) (b : Backend) (d : State) : Prop :=
  ∀ f, ∃ acts, run (Pipeline.step lib w f.isTee) (Pipeline.init w f.isTee b) acts = some (d.sockets f)

section Runs
variable {lib : FrameLib} {w : Worker} {b : Backend}

theorem runStep {s s' : Pipeline.State} {tee : Bool} {a : Pipeline.Action}
    (ok : Pipeline.step lib w tee s a = some s') : run (Pipeline.step lib w tee) s [a] = some s' := by
  simp [run, ok]

theorem stepSockets {d d' : State} {a : Action} (h : Sockets lib w b d)
    (ok : step lib w d a = some d') : Sockets lib w b d' := by
  obtain ⟨-, s, synced, stepped, rfl⟩ := stepSplit ok
  intro f
  by_cases same : f = a.feed
  · subst f
    obtain ⟨acts, ran⟩ := h a.feed
    have further := runAppend (runAppend ran (runStep synced)) (runStep stepped)
    exact ⟨_, by simpa only [Function.update_self] using further⟩
  · simp only [Function.update_of_ne same]
    exact h f

theorem Sockets.synced {d d' : State} {a : Action} (h : Sockets lib w b d)
    (ok : step lib w d a = some d') : Reached lib w a.feed.isTee (d.socket a.feed) := by
  obtain ⟨-, s, synced, -, -⟩ := stepSplit ok
  obtain ⟨acts, ran⟩ := h a.feed
  exact reached (runAppend ran (runStep synced))

theorem Sockets.reached {d : State} (h : Sockets lib w b d) (f : Feed) :
    Reached lib w f.isTee (d.sockets f) := by
  obtain ⟨acts, ran⟩ := h f
  exact Pipeline.reached ran

end Runs

def Wants (lib : FrameLib) (f : Feed) (key : Bytes) (d : Datagram) : Prop :=
  Whole d ∧ ∃ value, datagramStore lib f.isTee d.bytes = some (key, value)

def Clear (lib : FrameLib) (d : State) (a : Action) : Prop := match a.act with
  | .read datagrams => ∀ v ∈ datagrams, ∀ y, InFlight (flow (d.sockets a.feed.other)) y →
      ∀ key, Wants lib a.feed key v → ¬ Wants lib a.feed.other key y.value
  | _ => True

structure InOrder (lib : FrameLib) (d : State) : Prop where
  calls : ∀ key, (storeCalls key d.log).Pairwise (fun newer older => older.stamp < newer.stamp)
  past : ∀ key, ∀ x ∈ storeCalls key d.log, x.stamp < d.clock
  behind : ∀ f key x, InFlight (flow (d.sockets f)) x → Wants lib f key x.value →
    ∀ y ∈ storeCalls key d.log, y.stamp < x.stamp
  apart : ∀ f key x y, InFlight (flow (d.sockets f)) x → InFlight (flow (d.sockets f.other)) y →
    Wants lib f key x.value → ¬ Wants lib f.other key y.value

section Order
variable {lib : FrameLib} {w : Worker} {b : Backend}

theorem initInOrder : InOrder lib (init w b) := by
  have none' : ∀ f x, ¬ InFlight (flow ((init w b).sockets f)) x := by
    rintro f x (batch | ⟨lane, queued | held⟩)
    · cases batch
    · cases queued
    · cases held
  refine ⟨fun _ => List.Pairwise.nil, nofun, ?_, ?_⟩
  · intro f key x flight
    exact absurd flight (none' f x)
  · intro f key x y flight
    exact absurd flight (none' f x)

theorem stepCalls {d d' : State} {a : Action} (h : Sockets lib w b d) (ok : step lib w d a = some d')
    (key : Bytes) :
    storeCalls key d'.log = storeCalls key d.log ∨
    ∃ p x, storeCalls key d'.log = x :: storeCalls key d.log ∧ InFlight (flow (d.sockets a.feed)) x ∧
      Wants lib a.feed key x.value ∧ (.handled p, x) ∈ (flow (d'.sockets a.feed)).ended := by
  have checked := (h.synced ok).checked
  obtain ⟨-, s, -, stepped, rfl⟩ := stepSplit ok
  obtain ⟨f, act⟩ := a
  cases stepTook lib w _ stepped with
  | @handle p fault now slot low held =>
    rcases (handledFate checked low held fault now).calls key with none' |
      ⟨p', events, value, same, one, whole, call⟩
    · left
      simp only [storeCalls, logged, List.flatMap_cons, none', List.nil_append]
    · right
      refine ⟨p, (d.socket f).mem slot, ?_, ?_, ⟨whole, value, call⟩, ?_⟩
      · simp only [storeCalls, logged, List.flatMap_cons, one, Record.item, List.singleton_append]
      · refine .inr ⟨p, .inr ?_⟩
        have holding : (d.sockets f).hands p = .holding slot := held
        simp [flow, holding, Hand.held, State.socket]
      · simp [flow, Record.ending]
  | _ => exact .inl rfl

theorem stepClock {d d' : State} {a : Action} (ok : step lib w d a = some d') : d.clock ≤ d'.clock := by
  obtain ⟨-, s, -, stepped, rfl⟩ := stepSplit ok
  obtain ⟨f, act⟩ := a
  cases stepTook lib w _ stepped with
  | outside forward => exact forward
  | read top fits => exact Nat.le_add_right _ _
  | _ => exact Nat.le_refl _

theorem stepInFlight {d d' : State} {a : Action} (h : Sockets lib w b d) (ok : step lib w d a = some d')
    {f : Feed} {x : Item Datagram} (flight : InFlight (flow (d'.sockets f)) x) :
    InFlight (flow (d.sockets f)) x ∨
      f = a.feed ∧ ∃ datagrams, a.act = .read datagrams ∧ x ∈ stamped d.clock datagrams := by
  have owned := (h.synced ok).owned
  obtain ⟨-, s, -, stepped, rfl⟩ := stepSplit ok
  by_cases same : f = a.feed
  · subst f
    simp only [Function.update_self] at flight
    exact (stepFlight owned stepped flight).imp id (fun isNew => ⟨rfl, isNew⟩)
  · simp only [Function.update_of_ne same] at flight
    exact .inl flight

theorem otherOther (f : Feed) : f.other.other = f := by cases f <;> rfl

theorem otherOf {f g : Feed} (differ : f ≠ g) : f = g.other := by
  cases f <;> cases g <;> first | rfl | exact absurd rfl differ

theorem stepApart {d d' : State} {a : Action} (sockets : Sockets lib w b d) (h : InOrder lib d)
    (clear : Clear lib d a) (ok : step lib w d a = some d') :
    ∀ f key x y, InFlight (flow (d'.sockets f)) x → InFlight (flow (d'.sockets f.other)) y →
      Wants lib f key x.value → ¬ Wants lib f.other key y.value := by
  -- One of two newly met datagrams was read just now, against the other feed.
  have met : ∀ key x y, InFlight (flow (d.sockets a.feed.other)) y →
      (∃ datagrams, a.act = .read datagrams ∧ x ∈ stamped d.clock datagrams) →
      Wants lib a.feed key x.value → ¬ Wants lib a.feed.other key y.value := by
    rintro key x y flight ⟨datagrams, isRead, isNew⟩
    rw [Clear, isRead] at clear
    exact clear x.value (ShardedQueues.stampedValue isNew) y flight key
  intro f key x y flightX flightY wantsX wantsY
  rcases stepInFlight sockets ok flightX with oldX | ⟨rfl, readX⟩
  · rcases stepInFlight sockets ok flightY with oldY | ⟨here, readY⟩
    · exact h.apart f key x y oldX oldY wantsX wantsY
    · have back : f = a.feed.other := by rw [← here, otherOther]
      subst f
      rw [otherOther] at wantsY
      exact met key y x oldX readY wantsY wantsX
  · rcases stepInFlight sockets ok flightY with oldY | ⟨here, -⟩
    · exact met key x y oldY readX wantsX wantsY
    · cases feed : a.feed <;> rw [feed] at here <;> cases here

theorem stepBehind (reads : lib.ReadsFlowKey) (decaps : lib.DecapsPayload) {d d' : State} {a : Action}
    (sockets : Sockets lib w b d) (h : InOrder lib d) (ok : step lib w d a = some d') :
    ∀ f key x, InFlight (flow (d'.sockets f)) x → Wants lib f key x.value →
      ∀ y ∈ storeCalls key d'.log, y.stamp < x.stamp := by
  intro f key x flight wants y mem
  have old : ∀ y ∈ storeCalls key d.log, y.stamp < x.stamp := by
    intro y earlier
    rcases stepInFlight sockets ok flight with still | ⟨-, datagrams, -, isNew⟩
    · exact h.behind f key x still wants y earlier
    · exact Nat.lt_of_lt_of_le (h.past key y earlier) (ShardedQueues.stampedBounds _ _ x isNew).1
  rcases stepCalls sockets ok key with same | ⟨p, z, grown, inFlight, wantsZ, done⟩
  · rw [same] at mem
    exact old y mem
  · rw [grown] at mem
    rcases List.mem_cons.mp mem with rfl | earlier
    · by_cases here : f = a.feed
      · subst f
        have ordered := ((stepSockets sockets ok).reached a.feed).ordered
        obtain ⟨whole, value, call⟩ := wants
        obtain ⟨whole', value', call'⟩ := wantsZ
        exact ordered.handledFirst done flight (callTarget reads decaps whole whole' call call')
      · -- Both would have been on their way, one on each socket.
        rcases stepInFlight sockets ok flight with still | ⟨isFeed, -⟩
        · rw [otherOf here] at still wants
          exact absurd wants (h.apart a.feed key y x inFlight still wantsZ)
        · exact absurd isFeed here
    · exact old y earlier

theorem stepInOrder (reads : lib.ReadsFlowKey) (decaps : lib.DecapsPayload) {d d' : State} {a : Action}
    (sockets : Sockets lib w b d) (h : InOrder lib d) (clear : Clear lib d a)
    (ok : step lib w d a = some d') : InOrder lib d' := by
  have forward := stepClock ok
  refine ⟨?_, ?_, stepBehind reads decaps sockets h ok, stepApart sockets h clear ok⟩
  · intro key
    rcases stepCalls sockets ok key with same | ⟨p, x, grown, inFlight, wants, -⟩
    · rw [same]
      exact h.calls key
    · rw [grown]
      exact List.pairwise_cons.mpr ⟨h.behind a.feed key x inFlight wants, h.calls key⟩
  · intro key x mem
    rcases stepCalls sockets ok key with same | ⟨p, z, grown, inFlight, -, -⟩
    · rw [same] at mem
      exact Nat.lt_of_lt_of_le (h.past key x mem) forward
    · rw [grown] at mem
      rcases List.mem_cons.mp mem with rfl | earlier
      · exact Nat.lt_of_lt_of_le ((sockets.synced ok).ordered.inFlightPast inFlight) forward
      · exact Nat.lt_of_lt_of_le (h.past key x earlier) forward

def Latest (lib : FrameLib) (w : Worker) (d : State) : Prop :=
  ∀ key x rest, storeCalls key d.log = x :: rest → ∃ f e,
    d.backend (w.cache.key key) = some e ∧
      datagramStore lib (Feed.isTee f) x.value.bytes = some (key, e.value)

def Action.lands (a : Action) : Bool := match a.act with
  | .handle _ .lost _ => false
  | _ => true

theorem stepLatest {d d' : State} {a : Action} (sockets : Sockets lib w b d) (h : Latest lib w d)
    (lands : a.lands = true) (ok : step lib w d a = some d') : Latest lib w d' := by
  have checked := (sockets.synced ok).checked
  obtain ⟨inside, s, -, stepped, rfl⟩ := stepSplit ok
  obtain ⟨f, act⟩ := a
  cases act with
  | handle p fault now =>
    obtain ⟨z, events, history, stores, stored⟩ := handleSpec checked stepped
    intro key x rest calls
    simp only [storeCalls, logged, history, List.flatMap_cons, handledCalls stores] at calls
    have landed : fault ≠ .lost := by
      rintro rfl
      cases lands
    rcases stored.entry landed key with ⟨e, call, found⟩ | ⟨other, same⟩
    · rw [call, Option.map_some, if_pos rfl] at calls
      cases calls
      exact ⟨f, e, found, call⟩
    · rw [if_neg other, List.nil_append] at calls
      obtain ⟨g, e, found, call⟩ := h key x rest calls
      exact ⟨g, e, same.trans found, call⟩
  | outside time b => cases inside
  | _ => cases stepTook lib w _ stepped <;> exact h

/-- Read from each socket only what is clear of the other, and the Store calls of
every key follow the order of the reads; if no call is lost, the value left is
that of the datagram read last of those stored. -/
theorem storesInReadOrder (reads : lib.ReadsFlowKey) (decaps : lib.DecapsPayload) (b : Backend)
    (acts : List Action) (d : State) (clear : Along (step lib w) (Clear lib) (init w b) acts)
    (ran : run (step lib w) (init w b) acts = some d) :
    (∀ key, (storeCalls key d.log).Pairwise (fun newer older => older.stamp < newer.stamp)) ∧
    ((∀ a ∈ acts, a.lands = true) → ∀ key x rest, storeCalls key d.log = x :: rest →
      (∀ y ∈ rest, y.stamp < x.stamp) ∧ ∃ f e, d.backend (w.cache.key key) = some e ∧
        datagramStore lib (Feed.isTee f) x.value.bytes = some (key, e.value)) := by
  have start : Sockets lib w b (init w b) := fun f => ⟨[], rfl⟩
  have ordered : InOrder lib d := by
    have keeps : ∀ s a s', (Sockets lib w b s ∧ InOrder lib s) → Clear lib s a →
        step lib w s a = some s' → Sockets lib w b s' ∧ InOrder lib s' := by
      intro s a s' h clear ok
      exact ⟨stepSockets h.1 ok, stepInOrder reads decaps h.1 h.2 clear ok⟩
    exact (invariantAlong keeps ⟨start, initInOrder⟩ clear ran).2
  refine ⟨ordered.calls, ?_⟩
  intro lands key x rest calls
  have latest : Latest lib w d := by
    have keeps : ∀ s a s', (Sockets lib w b s ∧ Latest lib w s) → a.lands = true →
        step lib w s a = some s' → Sockets lib w b s' ∧ Latest lib w s' := by
      intro s a s' h lands ok
      exact ⟨stepSockets h.1 ok, stepLatest h.1 h.2 lands ok⟩
    exact (invariantAlong keeps ⟨start, nofun⟩ (alongAll lands _) ran).2
  have order := ordered.calls key
  rw [calls] at order
  exact ⟨(List.pairwise_cons.mp order).1, latest key x rest calls⟩

end Order

def single : Worker := ⟨⟨[]⟩, ⟨5, 5, 5, 5, 5⟩, 1, 1⟩

def fromTee : Datagram := ⟨enveloped (plainFrame 7 9 0), none⟩
def fromGroup : Datagram := ⟨plainFrame 7 9 1, none⟩

def inTurn : List Action :=
  [⟨.multicast, .read [fromGroup]⟩, ⟨.multicast, .next⟩, ⟨.multicast, .take 0⟩,
    ⟨.multicast, .handle 0 .none 0⟩, ⟨.tee, .read [fromTee]⟩, ⟨.tee, .next⟩, ⟨.tee, .take 0⟩,
    ⟨.tee, .handle 0 .none 1⟩]

theorem clearOf {lib : FrameLib} {d : State} {f : Feed} {datagrams : List Datagram}
    (still : ∀ y, ¬ InFlight (flow (d.sockets f.other)) y) : Clear lib d ⟨f, .read datagrams⟩ :=
  fun _ _ y flight => absurd flight (still y)

theorem inTurnClear :
    Along (step .plain single) (Clear .plain) (init single ExpiringStore.empty) inTurn := by
  have start : Sockets .plain single ExpiringStore.empty (init single ExpiringStore.empty) :=
    fun f => ⟨[], rfl⟩
  have still : ∀ d, Sockets .plain single ExpiringStore.empty d → Quiet single (d.sockets .multicast) →
      ∀ y, ¬ InFlight (flow (d.sockets .multicast)) y :=
    fun d sockets quiet => quiet.noneInFlight (sockets.reached .multicast).owned
  have first : ∀ y, ¬ InFlight (flow ((init single ExpiringStore.empty).sockets .tee)) y :=
    Quiet.noneInFlight (by decide +kernel) (start.reached .tee).owned
  refine ⟨clearOf first, fun s1 h1 => ⟨trivial, fun s2 h2 => ⟨trivial, fun s3 h3 => ⟨trivial,
    fun s4 h4 => ⟨clearOf (still s4 ?_ ?_), fun _ _ => ⟨trivial, fun _ _ => ⟨trivial, fun _ _ =>
      ⟨trivial, fun _ _ => trivial⟩⟩⟩⟩⟩⟩⟩⟩
  · exact stepSockets (stepSockets (stepSockets (stepSockets start h1) h2) h3) h4
  · have quiet : (run (step .plain single) (init single ExpiringStore.empty) (inTurn.take 4)).map
        (fun d => decide (Quiet single (d.sockets .multicast))) = some true := by decide +kernel
    have ran : run (step .plain single) (init single ExpiringStore.empty) (inTurn.take 4) = some s4 := by
      simp only [inTurn, List.take, run, h1, h2, h3, h4, bind, Option.bind_some]
    rw [ran] at quiet
    exact of_decide_eq_true (Option.some.inj quiet)

theorem storesInReadOrderInTurn :
    ∃ d, run (step .plain single) (init single ExpiringStore.empty) inTurn = some d ∧
      (storeCalls (flowKey 7 9) d.log).map Item.stamp = [1, 0] ∧
      (∀ key, (storeCalls key d.log).Pairwise (fun newer older => older.stamp < newer.stamp)) ∧
      ∃ e, d.backend (flowKey 7 9) = some e := by
  have computed : (run (step .plain single) (init single ExpiringStore.empty) inTurn).map (fun d =>
      (storeCalls (flowKey 7 9) d.log).map Item.stamp) = some [1, 0] := by decide +kernel
  obtain ⟨d, ran, calls⟩ := Option.map_eq_some_iff.mp computed
  obtain ⟨ordered, latest⟩ :=
    storesInReadOrder plainReadsFlowKey plainDecapsPayload _ _ d inTurnClear ran
  have lands : ∀ a ∈ inTurn, a.lands = true := by
    simp [inTurn, Action.lands]
  cases head : storeCalls (flowKey 7 9) d.log with
  | nil => rw [head] at calls; cases calls
  | cons x rest =>
    obtain ⟨-, f, e, found, -⟩ := latest lands (flowKey 7 9) x rest head
    exact ⟨d, ran, calls, ordered, e, found⟩

def crossed : List Action :=
  [⟨.tee, .read [fromTee]⟩, ⟨.tee, .next⟩, ⟨.tee, .take 0⟩, ⟨.multicast, .read [fromGroup]⟩,
    ⟨.multicast, .next⟩, ⟨.multicast, .take 0⟩, ⟨.multicast, .handle 0 .none 0⟩,
    ⟨.tee, .handle 0 .none 1⟩]

/-- The call for the datagram read last comes first, and the older bytes stay. -/
theorem crossedOverwrites :
    ∃ d e, run (step .plain single) (init single ExpiringStore.empty) crossed = some d ∧
      ¬ (storeCalls (flowKey 7 9) d.log).Pairwise (fun newer older => older.stamp < newer.stamp) ∧
      d.backend (flowKey 7 9) = some e ∧ e.value = plainFrame 7 9 0 := by
  have computed : (run (step .plain single) (init single ExpiringStore.empty) crossed).map (fun d =>
      ((storeCalls (flowKey 7 9) d.log).map Item.stamp, d.backend (flowKey 7 9))) =
      some ([0, 1], some ⟨plainFrame 7 9 0, 6⟩) := by decide +kernel
  obtain ⟨d, ran, seen⟩ := Option.map_eq_some_iff.mp computed
  obtain ⟨calls, entry⟩ := Prod.mk.inj seen
  refine ⟨d, _, ran, ?_, entry, rfl⟩
  intro order
  have stamps : ((storeCalls (flowKey 7 9) d.log).map Item.stamp).Pairwise (fun newer older => older < newer) :=
    List.pairwise_map.mpr order
  rw [calls] at stamps
  exact absurd stamps (by decide)

end RetryEndpoint.TwoFeeds
