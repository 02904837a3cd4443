import RetryEndpoint.RateBound
import RetryEndpoint.WorkPool

/-! The server's Run: one goroutine reads the NACK socket and sends what it has read
down a buffered channel, the workers take from it and run processNACK, and any of
them may move between two steps of another. Cancellation is seen at the top of the
read loop, at a failed read, at the blocking send and by an idle worker, so a
datagram read may still be answered after it, or may be lost with it. -/
namespace RetryEndpoint.ServerRun
open BigEndian Wire Cache Retransmit RateLimit NackServer Runs WorkPool
open NackWorkers (Request Phase)

def requestsDepth : Nat := 100

/- Where the read loop stands. What it holds as it leaves is dropped. -/
inductive Reader where
  | top
  | reading
  | sending (req : Request)
  | joining (lost : Option Request)
  | returned (lost : Option Request)
  deriving DecidableEq, Repr

def Reader.holds : Reader → List Request
  | .sending req => [req]
  | .joining lost | .returned lost => lost.toList
  | _ => []

def Reader.left : Reader → Bool
  | .joining _ | .returned _ => true
  | _ => false

structure State (β : Type) where
  reader : Reader
  pool : Pool Request
  calls : NackWorkers.State β
  read : List Request

inductive Read where
  | timeout
  | failed
  | datagram (bytes : Bytes) (src : Option UDPAddr)
  deriving DecidableEq, Repr

inductive Action (s : Server) where
  | cancel
  | look
  | read (r : Read)
  | send
  | giveUp
  | join
  | take (i : Nat)
  | call (a : NackWorkers.Action s)
  | finish (i ticket : Nat)
  | exit (i : Nat)

variable {β : Type}

def init (workers : Nat) (limiter : RateLimit.Limiter β) (b : Backend) : State β :=
  ⟨.top, new workers, NackWorkers.init limiter b, []⟩

/- A call begins when a worker takes its request and in no other way. -/
def begins {s : Server} : NackWorkers.Action s → Bool
  | .arrive .. => true
  | _ => false

def outside {s : Server} : NackWorkers.Action s → Bool
  | .tick _ | .outside _ => true
  | _ => false

def Action.own {s : Server} : Action s → Bool
  | .cancel => false
  | .call a => !outside a
  | _ => true

/- close(requests), then wg.Wait. -/
def State.leave (s : State β) (lost : Option Request) : Option (State β) := do
  let pool ← s.pool.close
  some { s with pool := pool, reader := .joining lost }

section Step
variable (rt : Runtime β) (lib : FrameLib) (server : Server)

def step (s : State β) : Action server → Option (State β)
  | .cancel => some { s with pool := s.pool.cancel }
  | .look => match s.reader with
    | .top => if s.pool.cancelled then s.leave none else some { s with reader := .reading }
    | _ => none
  | .read r => match s.reader, r with
    | .reading, .timeout => some { s with reader := .top }
    | .reading, .failed => if s.pool.cancelled then s.leave none else some { s with reader := .top }
    | .reading, .datagram bytes src => match readNACK bytes with
      | none => some { s with reader := .top }
      | some datagram =>
        some { s with reader := .sending ⟨datagram, src⟩, read := s.read ++ [⟨datagram, src⟩] }
    | _, _ => none
  | .send => match s.reader with
    | .sending req => do
      let pool ← s.pool.send requestsDepth req
      some { s with pool := pool, reader := .top }
    | _ => none
  | .giveUp => match s.reader with
    | .sending req => if s.pool.cancelled then s.leave (some req) else none
    | _ => none
  | .join => match s.reader with
    | .joining lost =>
      if ∀ hand ∈ s.pool.hands, hand = .gone then some { s with reader := .returned lost } else none
    | _ => none
  | .take i => do
    let (req, pool) ← s.pool.take i
    let calls ← NackWorkers.step rt lib server s.calls (.arrive s.pool.taken.length req)
    some { s with pool := pool, calls := calls }
  | .call a =>
    if begins a then none
    else do
      let calls ← NackWorkers.step rt lib server s.calls a
      some { s with calls := calls }
  | .finish i ticket => match s.calls.calls ticket with
    | some (_, .done) => do
      let pool ← s.pool.finish i ticket
      some { s with pool := pool }
    | _ => none
  | .exit i => do
    let pool ← s.pool.exit i
    some { s with pool := pool }

inductive Took (s : State β) : Action server → State β → Prop where
  | cancel : Took s .cancel { s with pool := s.pool.cancel }
  | look (top : s.reader = .top) (quiet : s.pool.cancelled = false) :
      Took s .look { s with reader := .reading }
  | leave {a lost} (here : s.reader.left = false) (holds : s.reader.holds = lost.toList)
      (told : s.pool.cancelled = true) (isOpen : s.pool.closed = false) :
      Took s a { s with pool := { s.pool with closed := true }, reader := .joining lost }
  | again {r} (reading : s.reader = .reading) : Took s (.read r) { s with reader := .top }
  | read {bytes src datagram} (reading : s.reader = .reading) (whole : readNACK bytes = some datagram) :
      Took s (.read (.datagram bytes src))
        { s with reader := .sending ⟨datagram, src⟩, read := s.read ++ [⟨datagram, src⟩] }
  | send {req} (sending : s.reader = .sending req) (isOpen : s.pool.closed = false)
      (room : s.pool.queue.length < requestsDepth) :
      Took s .send { s with
        pool := { s.pool with queue := s.pool.queue ++ [req], sent := s.pool.sent ++ [req] },
        reader := .top }
  | join {lost} (joining : s.reader = .joining lost) (gone : ∀ hand ∈ s.pool.hands, hand = .gone) :
      Took s .join { s with reader := .returned lost }
  | take {i req rest calls} (idle : s.pool.hands[i]? = some .idle) (next : s.pool.queue = req :: rest)
      (fresh : s.calls.calls s.pool.taken.length = none)
      (begun : NackWorkers.step rt lib server s.calls (.arrive s.pool.taken.length req) = some calls) :
      Took s (.take i) { s with
        pool := { s.pool with
          queue := rest, hands := s.pool.hands.set i (.busy s.pool.taken.length),
          taken := s.pool.taken ++ [req] },
        calls := calls }
  | call {a calls} (later : begins a = false) (moved : NackWorkers.step rt lib server s.calls a = some calls) :
      Took s (.call a) { s with calls := calls }
  | finish {i ticket req} (busy : s.pool.hands[i]? = some (.busy ticket))
      (through : s.calls.calls ticket = some (req, .done)) :
      Took s (.finish i ticket) { s with
        pool := { s.pool with hands := s.pool.hands.set i .idle, finished := ticket :: s.pool.finished } }
  | exit {i} (idle : s.pool.hands[i]? = some .idle)
      (told : s.pool.cancelled = true ∨ s.pool.closed = true ∧ s.pool.queue = []) :
      Took s (.exit i) { s with pool := { s.pool with hands := s.pool.hands.set i .gone } }

variable {rt lib server}

theorem leaveTook {s s' : State β} {a : Action server} {lost : Option Request}
    (here : s.reader.left = false) (holds : s.reader.holds = lost.toList)
    (told : s.pool.cancelled = true) (ok : s.leave lost = some s') : Took rt lib server s a s' := by
  obtain ⟨pool, closed, ok⟩ := Option.bind_eq_some_iff.mp ok
  obtain ⟨isOpen, rfl⟩ := closeMoved closed
  cases Option.some.inj ok
  exact .leave here holds told isOpen

theorem stepTook {s s' : State β} {a : Action server} (ok : step rt lib server s a = some s') :
    Took rt lib server s a s' := by
  cases a with
  | cancel => cases Option.some.inj ok; exact .cancel
  | look =>
    simp only [step] at ok
    split at ok <;> try contradiction
    rename_i top
    split at ok
    · exact leaveTook (by rw [top]; rfl) (by rw [top]; rfl) (by assumption) ok
    · rename_i quiet
      cases Option.some.inj ok
      exact .look top (Bool.eq_false_iff.mpr quiet)
  | read r =>
    simp only [step] at ok
    split at ok <;> try contradiction
    · rename_i reading
      cases Option.some.inj ok
      exact .again reading
    · rename_i reading
      split at ok
      · exact leaveTook (by rw [reading]; rfl) (by rw [reading]; rfl) (by assumption) ok
      · cases Option.some.inj ok
        exact .again reading
    · rename_i bytes src reading
      split at ok
      · cases Option.some.inj ok
        exact .again reading
      · rename_i datagram whole
        cases Option.some.inj ok
        exact .read reading whole
  | send =>
    simp only [step] at ok
    split at ok <;> try contradiction
    rename_i req sending
    obtain ⟨pool, sent, ok⟩ := Option.bind_eq_some_iff.mp ok
    obtain ⟨isOpen, room, rfl⟩ := sendMoved sent
    cases Option.some.inj ok
    exact .send sending isOpen room
  | giveUp =>
    simp only [step] at ok
    split at ok <;> try contradiction
    rename_i req sending
    split at ok <;> try contradiction
    exact leaveTook (by rw [sending]; rfl) (by rw [sending]; rfl) (by assumption) ok
  | join =>
    simp only [step] at ok
    split at ok <;> try contradiction
    rename_i lost joining
    split at ok <;> try contradiction
    cases Option.some.inj ok
    exact .join joining (by assumption)
  | take i =>
    obtain ⟨⟨req, pool⟩, took, ok⟩ := Option.bind_eq_some_iff.mp ok
    obtain ⟨rest, idle, next, rfl⟩ := takeMoved took
    obtain ⟨calls, begun, ok⟩ := Option.bind_eq_some_iff.mp ok
    cases Option.some.inj ok
    have fresh : s.calls.calls s.pool.taken.length = none := by
      cases NackWorkers.stepTook begun <;> assumption
    exact .take idle next fresh begun
  | call a =>
    simp only [step] at ok
    split at ok <;> try contradiction
    rename_i later
    obtain ⟨calls, moved, ok⟩ := Option.bind_eq_some_iff.mp ok
    cases Option.some.inj ok
    exact .call (Bool.eq_false_iff.mpr later) moved
  | finish i ticket =>
    simp only [step] at ok
    split at ok <;> try contradiction
    rename_i req through
    obtain ⟨pool, done, ok⟩ := Option.bind_eq_some_iff.mp ok
    obtain ⟨busy, rfl⟩ := finishMoved done
    cases Option.some.inj ok
    exact .finish busy through
  | exit i =>
    obtain ⟨pool, left, ok⟩ := Option.bind_eq_some_iff.mp ok
    obtain ⟨idle, told, rfl⟩ := exitMoved left
    cases Option.some.inj ok
    exact .exit idle told

end Step

def phaseWork : Phase → Nat
  | .ip => 6
  | .sequence => 5
  | .chain _ => 4
  | .lookup .. => 3
  | .group _ => 2
  | .send _ => 1
  | .done => 0

def isDone (phase : Phase) : Bool := phaseWork phase == 0

section Calls
variable {rt : Runtime β} {lib : FrameLib} {server : Server} {s s' : NackWorkers.State β}

theorem phaseWorkLe (phase : Phase) : phaseWork phase ≤ 6 := by
  cases phase <;> simp [phaseWork]

theorem doneIs {phase : Phase} (done : isDone phase = true) : phase = .done := by
  cases phase <;> first | rfl | cases done

theorem arriveCalls {id : Nat} {req : Request}
    (stepped : NackWorkers.step rt lib server s (.arrive id req) = some s') :
    ∃ phase, s'.calls = Function.update s.calls id (some (req, phase)) := by
  cases NackWorkers.stepTook stepped <;> exact ⟨_, rfl⟩

theorem stepCalls {a : NackWorkers.Action server} (later : begins a = false)
    (stepped : NackWorkers.step rt lib server s a = some s') :
    (outside a = true ∧ s'.calls = s.calls) ∨
    ∃ id req phase phase', s.calls id = some (req, phase) ∧ phaseWork phase' < phaseWork phase ∧
      s'.calls = Function.update s.calls id (some (req, phase')) := by
  cases NackWorkers.stepTook stepped with
  | tick | outside => exact .inl ⟨rfl, rfl⟩
  | refused | arrived => cases later
  | ipPassed here | ipDenied here | seqPassed here | seqDenied here | chainPassed here | chainDenied here
  | failed here | missed here | hit here | groupPassed here | groupDenied here | sent here =>
    exact .inr ⟨_, _, _, _, here, by simp [phaseWork], rfl⟩

def eventCall : NackWorkers.Event → Nat × Request
  | .passed _ id req _ | .denied _ id req _ | .looked id req _ _ _ | .did id req _ _ => (id, req)

def Owned (s : NackWorkers.State β) : Prop :=
  ∀ e ∈ s.history, ∃ phase, s.calls (eventCall e).1 = some ((eventCall e).2, phase)

theorem Owned.move (h : Owned s) {s' : NackWorkers.State β} {id : Nat} {req : Request} {phase : Phase}
    {events : List NackWorkers.Event} (same : ∀ r p, s.calls id = some (r, p) → r = req)
    (mine : ∀ e ∈ events, eventCall e = (id, req))
    (calls : s'.calls = Function.update s.calls id (some (req, phase)))
    (history : s'.history = events ++ s.history) : Owned s' := by
  intro e mem
  rw [history] at mem
  rw [calls]
  rcases List.mem_append.mp mem with new' | old
  · rw [mine e new']
    exact ⟨phase, Function.update_self ..⟩
  · obtain ⟨before, here⟩ := h e old
    by_cases this : (eventCall e).1 = id
    · rw [this] at here
      rw [this, same _ _ here]
      exact ⟨phase, Function.update_self ..⟩
    · exact ⟨before, by rw [Function.update_of_ne this, here]⟩

theorem stepOwned {a : NackWorkers.Action server} (h : Owned s)
    (stepped : NackWorkers.step rt lib server s a = some s') : Owned s' := by
  have same : ∀ {id req phase}, s.calls id = some (req, phase) →
      ∀ r p, s.calls id = some (r, p) → r = req := by
    intro id req phase here r p there
    rw [here] at there
    cases Option.some.inj there
    rfl
  cases NackWorkers.stepTook stepped with
  | tick | outside => exact h
  | refused fresh | arrived fresh =>
    refine h.move ?_ ?_ rfl rfl
    · intro r p here
      rw [fresh] at here
      cases here
    · intro e mem
      cases mem
  | ipPassed here | ipDenied here | seqPassed here | seqDenied here | chainPassed here | chainDenied here
  | failed here | missed here | hit here | groupPassed here | groupDenied here | sent here =>
    exact h.move (same here) (by simp [eventCall]) rfl rfl

end Calls

structure Sound (workers : Nat) (s : State β) : Prop where
  pool : WorkPool.Sound requestsDepth s.pool
  tracked : Tracked isDone s.pool.taken s.pool.finished s.calls.calls
  workers : s.pool.hands.length = workers
  order : s.read = s.pool.sent ++ s.reader.holds
  shut : s.pool.closed = s.reader.left
  told : s.pool.closed = true → s.pool.cancelled = true
  gone : ∀ lost, s.reader = .returned lost → ∀ hand ∈ s.pool.hands, hand = .gone

section Keeps
variable {rt : Runtime β} {lib : FrameLib} {server : Server} {workers : Nat} {s s' : State β}

theorem initSound (workers : Nat) (limiter : RateLimit.Limiter β) (b : Backend) :
    Sound workers (init workers limiter b) where
  pool := soundNew ..
  tracked := trackedNew
  workers := List.length_replicate
  order := rfl
  shut := rfl
  told := fun closed => by cases closed
  gone := fun lost here => by cases here

theorem Sound.stillIn (h : Sound workers s) {i : Nat} {hand : Hand} (here : s.pool.hands[i]? = some hand)
    (busy : hand ≠ .gone) (lost : Option Request) : s.reader ≠ .returned lost := by
  intro returned
  exact busy (h.gone lost returned hand (List.mem_of_getElem? here))

theorem Sound.turn (h : Sound workers s) {reader : Reader} {read : List Request}
    (order : read = s.pool.sent ++ reader.holds) (left : s.reader.left = reader.left)
    (gone : ∀ lost, reader = .returned lost → ∀ hand ∈ s.pool.hands, hand = .gone) :
    Sound workers { s with reader := reader, read := read } where
  pool := h.pool
  tracked := h.tracked
  workers := h.workers
  order := order
  shut := h.shut.trans left
  told := h.told
  gone := gone

theorem stepSound {a : Action server} (h : Sound workers s) (stepped : step rt lib server s a = some s') :
    Sound workers s' := by
  cases stepTook stepped with
  | cancel => exact { h with pool := h.pool.moved .cancel, told := fun _ => rfl }
  | look top | again top =>
    refine h.turn ?_ (by rw [top]; rfl) (fun _ => nofun)
    rw [h.order, top]
    rfl
  | leave here holds told isOpen =>
    exact { h with
      pool := h.pool.moved (.close isOpen), order := h.order.trans (by rw [holds]; rfl), shut := rfl,
      told := fun _ => told, gone := fun _ => nofun }
  | read reading whole =>
    refine h.turn ?_ (by rw [reading]; rfl) (fun _ => nofun)
    rw [h.order, reading]
    simp [Reader.holds]
  | @send req sending isOpen room =>
    refine { h with
      pool := h.pool.moved (.send isOpen room), order := ?_, shut := isOpen, gone := fun _ => nofun }
    rw [h.order, sending]
    simp [Reader.holds]
  | join joining gone =>
    exact h.turn (by rw [h.order, joining]; rfl) (by rw [joining]; rfl) (fun _ _ => gone)
  | @take i req rest calls idle next fresh begun =>
    obtain ⟨phase, moved⟩ := arriveCalls begun
    refine { h with
      pool := h.pool.moved (.take idle next), workers := (List.length_set ..).trans h.workers,
      tracked := moved ▸ h.tracked.begin req phase, gone := ?_ }
    intro lost returned
    exact absurd returned (h.stillIn idle nofun lost)
  | call later moved =>
    rcases stepCalls later moved with ⟨-, same⟩ | ⟨id, req, phase, phase', here, less, same⟩
    · exact { h with tracked := same ▸ h.tracked }
    · have still : isDone phase = false := by simp [isDone]; omega
      exact { h with tracked := same ▸ h.tracked.move here still phase' }
  | @finish i ticket req busy through =>
    refine { h with
      pool := h.pool.moved (.finish busy), workers := (List.length_set ..).trans h.workers,
      tracked := h.tracked.finish through rfl, gone := ?_ }
    intro lost returned
    exact absurd returned (h.stillIn busy nofun lost)
  | exit idle told =>
    refine { h with
      pool := h.pool.moved (.exit idle told), workers := (List.length_set ..).trans h.workers, gone := ?_ }
    intro lost returned
    exact absurd returned (h.stillIn idle nofun lost)

theorem stepCall {a : Action server} (stepped : step rt lib server s a = some s') :
    s'.calls = s.calls ∨ ∃ b, NackWorkers.step rt lib server s.calls b = some s'.calls := by
  cases stepTook stepped with
  | take idle next fresh begun => exact .inr ⟨_, begun⟩
  | call later moved => exact .inr ⟨_, moved⟩
  | _ => exact .inl rfl

end Keeps

/- Two workers. One datagram is being served when the context is cancelled and the next is
already in the read loop's hands: it is dropped, and Run returns after the answer. -/
def beforeCancel : List (Action (endpoint true true)) :=
  [.look, .read (.datagram (ask 0) (some listener)), .send, .take 1, .look,
    .read (.datagram (ask 0) none), .cancel]

def afterCancel : List (Action (endpoint true true)) :=
  [.call (.ip 0), .giveUp, .exit 0, .call (.sequence 0), .call (.tick 5), .call (.chain 0),
    .call (.look 0 false), .finish 1 0, .exit 1, .join]

section Runs
variable {rt : Runtime β} {lib : FrameLib} {server : Server} {workers : Nat} {s : State β}
  {limiter : RateLimit.Limiter β} {b : Backend} {acts : List (Action server)}

theorem soundReached (ran : run (step rt lib server) (init workers limiter b) acts = some s) :
    Sound workers s :=
  invariant (fun _ _ _ h stepped => stepSound h stepped) (initSound workers limiter b) ran

theorem callsReached (ran : run (step rt lib server) (init workers limiter b) acts = some s) :
    ∃ acts', run (NackWorkers.step rt lib server) (NackWorkers.init limiter b) acts' = some s.calls := by
  have maps : ∀ (s : State β) (a : Action server) (s' : State β), True → step rt lib server s a = some s' →
      s'.calls = s.calls ∨ ∃ b, NackWorkers.step rt lib server s.calls b = some s'.calls :=
    fun _ _ _ _ stepped => stepCall stepped
  exact refines (fun _ _ _ _ _ => trivial) maps trivial ran

/-- Every datagram of the right size that Run reads is taken by one worker, in the order
read, or is still queued or held by the read loop; at most the queue's depth of them wait
and at most one call runs on each worker; every call is of a request taken; and once
Run has returned no call is left running. -/
theorem everyReadServedOnce (ran : run (step rt lib server) (init workers limiter b) acts = some s) :
    s.read = s.pool.taken ++ s.pool.queue ++ s.reader.holds ∧
    s.pool.queue.length ≤ requestsDepth ∧
    (∀ id, (s.calls.calls id).map Prod.fst = s.pool.taken[id]?) ∧
    (running isDone s.pool s.calls.calls).length ≤ workers ∧
    ∀ lost, s.reader = .returned lost →
      ∀ id req phase, s.calls.calls id = some (req, phase) → phase = .done := by
  have h := soundReached ran
  refine ⟨?_, h.pool.room, h.tracked.begun, h.workers ▸ h.pool.runningFew h.tracked, ?_⟩
  · rw [h.order, h.pool.fifo]
  · intro lost returned id req phase here
    exact doneIs (h.pool.allThrough h.tracked (h.gone lost returned) here)

theorem everyReadServedOnceCancelled : ∃ s,
    run (step Runtime.plenty FrameLib.plain (endpoint true true))
      (init 2 (RateLimit.new Runtime.plenty RateBound.strict) ExpiringStore.empty) (beforeCancel ++ afterCancel) = some s ∧
    s.reader = .returned (some ⟨ask 0, none⟩) ∧ s.pool.taken = [⟨ask 0, some listener⟩] ∧
    s.read = s.pool.taken ++ s.pool.queue ++ s.reader.holds := by
  have computed : (run (step Runtime.plenty FrameLib.plain (endpoint true true))
      (init 2 (RateLimit.new Runtime.plenty RateBound.strict) ExpiringStore.empty) (beforeCancel ++ afterCancel)).map
      (fun s => (s.reader, s.pool.taken)) =
        some (.returned (some ⟨ask 0, none⟩), [⟨ask 0, some listener⟩]) := by decide +kernel
  obtain ⟨s, ran, seen⟩ := Option.map_eq_some_iff.mp computed
  exact ⟨s, ran, (Prod.ext_iff.mp seen).1, (Prod.ext_iff.mp seen).2, (everyReadServedOnce ran).1⟩

theorem Sound.readAt (h : Sound workers s) {id : Nat} {req : Request} {phase : Phase}
    (here : s.calls.calls id = some (req, phase)) : s.read[id]? = some req := by
  have low := h.tracked.low here
  rw [h.order, h.pool.fifo, List.append_assoc, List.getElem?_append_left low, h.tracked.isJob here]

/-- Whatever the read loop and the workers of Run do between them: what is asked, looked up,
answered or sent is so for the datagram read at that place, no datagram comes to the cache
twice, and in any interval of one sequence window at most SequenceMax of the datagrams
that were let through for one gap come to it. -/
theorem runCacheBounded {cfg : Config}
    (ran : run (step rt lib server) (init workers (RateLimit.new rt cfg) b) acts = some s) :
    (∀ e ∈ s.calls.history, s.read[(eventCall e).1]? = some (eventCall e).2) ∧
    (RateBound.lookedIds s.calls.history).Nodup ∧
    ∀ gap t, ((RateBound.sequenceTier.lookups gap s.calls.history).countP
      (RateBound.within t (RateBound.effectiveSequenceWindow cfg)) : Int) ≤ max 0 cfg.sequenceMax := by
  obtain ⟨acts', calls⟩ := callsReached ran
  have h := soundReached ran
  have owned : Owned s.calls :=
    invariant (fun _ _ _ h stepped => stepOwned h stepped) (fun _ mem => by cases mem) calls
  have traced := RateBound.tracedReached calls
  refine ⟨?_, traced.once, ?_⟩
  · intro e mem
    obtain ⟨phase, here⟩ := owned e mem
    exact h.readAt here
  · intro gap t
    exact (RateBound.limitsReached calls).sequence.lookups traced.once (RateBound.sequenceLookups traced gap) t

theorem runCacheBoundedCancelled : ∃ s,
    run (step Runtime.plenty FrameLib.plain (endpoint true true))
      (init 2 (RateLimit.new Runtime.plenty RateBound.strict) ExpiringStore.empty) (beforeCancel ++ afterCancel) = some s ∧
    RateBound.lookedIds s.calls.history = [0] ∧
    ∀ e ∈ s.calls.history, s.read[(eventCall e).1]? = some (eventCall e).2 := by
  have computed : (run (step Runtime.plenty FrameLib.plain (endpoint true true))
      (init 2 (RateLimit.new Runtime.plenty RateBound.strict) ExpiringStore.empty) (beforeCancel ++ afterCancel)).map
      (fun s => RateBound.lookedIds s.calls.history) = some [0] := by decide +kernel
  obtain ⟨s, ran, looked⟩ := Option.map_eq_some_iff.mp computed
  exact ⟨s, ran, looked, (runCacheBounded ran).1⟩

end Runs

def Reader.work : Reader → Nat
  | .reading => 13
  | .sending _ => 12
  | .top => 2
  | .joining _ => 1
  | .returned _ => 0

def work (s : State β) : Nat :=
  s.reader.work + 7 * s.pool.queue.length + s.pool.work + total phaseWork s.pool.taken.length s.calls.calls

section Returns
variable {rt : Runtime β} {lib : FrameLib} {server : Server} {workers : Nat} {s s' : State β}

structure Ending (workers : Nat) (s : State β) : Prop where
  sound : Sound workers s
  told : s.pool.cancelled = true

theorem stepEnding {a : Action server} (ending : Ending workers s)
    (stepped : step rt lib server s a = some s') : Ending workers s' := by
  refine ⟨stepSound ending.sound stepped, ?_⟩
  have told := ending.told
  cases stepTook stepped <;> first | rfl | exact told

theorem stepWork {a : Action server} (ending : Ending workers s)
    (stepped : step rt lib server s a = some s') :
    work s' + (if a.own then 1 else 0) ≤ work s := by
  have one : (if a.own then 1 else 0) ≤ 1 := by split <;> simp
  cases stepTook stepped with
  | cancel => exact Nat.le_refl _
  | look top quiet => rw [ending.told] at quiet; cases quiet
  | @leave _ lost here holds _ isOpen =>
    have early : 1 < s.reader.work := by
      cases at' : s.reader <;> simp_all [Reader.work, Reader.left]
    simp only [work, Pool.work, Reader.work] at early ⊢
    omega
  | again reading => simp only [work, reading, Reader.work]; omega
  | read reading whole => simp only [work, reading, Reader.work]; omega
  | @send req sending isOpen room =>
    simp only [work, Pool.work, sending, Reader.work, List.length_append, List.length_singleton]
    omega
  | join joining gone => simp only [work, joining, Reader.work]; omega
  | @take i req rest calls idle next fresh begun =>
    obtain ⟨phase, moved⟩ := arriveCalls begun
    have used := takeWork idle next
    have added := totalBegin phaseWork s.calls.calls s.pool.taken.length req phase
    have few := phaseWorkLe phase
    have queued : s.pool.queue.length = rest.length + 1 := by rw [next, List.length_cons]
    simp only [work, moved, List.length_append, List.length_singleton, added]
    simp only [Pool.work] at used ⊢
    omega
  | call later moved =>
    rcases stepCalls later moved with ⟨still, same⟩ | ⟨id, req, phase, phase', here, less, same⟩
    · simp [work, same, Action.own, still]
    · have used := totalMove phaseWork (ending.sound.tracked.low here) here phase'
      simp only [work, same]
      omega
  | finish busy through =>
    have used := finishWork busy
    simp only [work]
    simp only [Pool.work] at used ⊢
    omega
  | exit idle _ =>
    have used := exitWork idle
    simp only [work]
    simp only [Pool.work] at used ⊢
    omega

def someEnv (r : Retransmitter) : Env r where
  ipNow := 0
  seqNow := 0
  chainNow := 0
  groupNow := 0
  cacheNow := 0
  cacheFails := false
  dedupNow := 0
  dedupFault := .none
  order := r.sockets
  visits := listedOrder r
  egressFails := fun _ => false
  unicastFails := false

theorem callMoves {cfg : Config} {calls : NackWorkers.State β} (limits : RateBound.Limits rt cfg calls)
    {id : Nat} {req : Request} {phase : Phase} (here : calls.calls id = some (req, phase))
    (left : phase ≠ .done) :
    ∃ a, begins a = false ∧ outside a = false ∧
      ∃ calls', NackWorkers.step rt lib server calls a = some calls' := by
  cases phase with
  | ip => exact ⟨.ip id, rfl, rfl, by simp [NackWorkers.step, here]⟩
  | sequence => exact ⟨.sequence id, rfl, rfl, (RateBound.tiersAnswer limits).1 here⟩
  | chain seqAt => exact ⟨.chain id, rfl, rfl, (RateBound.tiersAnswer limits).2 seqAt here⟩
  | lookup seqAt chainAt => exact ⟨.look id false, rfl, rfl, by simp [NackWorkers.step, here]⟩
  | group raw =>
    exact ⟨.group id (someEnv server.retransmit), rfl, rfl, by simp [NackWorkers.step, here]⟩
  | send raw =>
    exact ⟨.send id (someEnv server.retransmit), rfl, rfl, by simp [NackWorkers.step, here]⟩
  | done => exact absurd rfl left

theorem runMoves {cfg : Config} (h : Sound workers s) (limits : RateBound.Limits rt cfg s.calls)
    (told : s.pool.cancelled = true) (left : ∀ lost, s.reader ≠ .returned lost) :
    ∃ a, a.own = true ∧ ∃ s', step rt lib server s a = some s' := by
  have shut := h.shut
  cases here : s.reader with
  | top =>
    rw [here] at shut
    exact ⟨.look, rfl, by simp [step, here, told, State.leave, Pool.close, shut, Reader.left]⟩
  | reading => exact ⟨.read .timeout, rfl, by simp [step, here]⟩
  | sending req =>
    rw [here] at shut
    exact ⟨.giveUp, rfl, by simp [step, here, told, State.leave, Pool.close, shut, Reader.left]⟩
  | joining lost =>
    by_cases gone : ∀ hand ∈ s.pool.hands, hand = .gone
    · exact ⟨.join, rfl, by simp only [step, here, if_pos gone]; exact ⟨_, rfl⟩⟩
    · rcases notGone gone told with ⟨i, ticket, busy⟩ | ⟨i, pool, exits⟩
      · obtain ⟨req, phase, call⟩ := h.tracked.call (h.pool.heldTaken (memHeld busy))
        by_cases through : phase = .done
        · subst through
          exact ⟨.finish i ticket, rfl, by simp [step, call, Pool.finish, busy]⟩
        · obtain ⟨a, later, inside, calls', moved⟩ : ∃ a, begins a = false ∧ outside a = false ∧
              ∃ calls', NackWorkers.step rt lib server s.calls a = some calls' :=
            callMoves limits call through
          exact ⟨.call a, by simp [Action.own, inside], by simp [step, later, moved]⟩
      · exact ⟨.exit i, rfl, by simp [step, exits]⟩
  | returned lost => exact absurd here (left lost)

theorem returnedStill {a : Action server} (h : Sound workers s) {lost : Option Request}
    (returned : s.reader = .returned lost) (own : a.own = true) : step rt lib server s a = none := by
  rw [Option.eq_none_iff_forall_not_mem]
  intro s' stepped
  cases stepTook stepped with
  | cancel => cases own
  | look here | again here | read here | send here | join here => rw [returned] at here; cases here
  | leave here => rw [returned] at here; cases here
  | take idle => exact h.stillIn idle nofun lost returned
  | finish busy => exact h.stillIn busy nofun lost returned
  | exit idle => exact h.stillIn idle nofun lost returned
  | call later moved =>
    rcases stepCalls later moved with ⟨still, -⟩ | ⟨id, req, phase, phase', here, less, -⟩
    · simp [Action.own, still] at own
    · rw [doneIs (h.pool.allThrough h.tracked (h.gone lost returned) here)] at less
      exact absurd less (Nat.not_lt_zero _)

/-- Once its context is cancelled Run takes only so many steps more, whatever the clock and
the other writers do meanwhile, and it stands still only when it has returned: the
channel is closed once and every worker has left. -/
theorem cancelledRunReturns {cfg : Config} {b : Backend} {acts later : List (Action server)} {t : State β}
    (ran : run (step rt lib server) (init workers (RateLimit.new rt cfg) b) acts = some s)
    (told : s.pool.cancelled = true) (after : run (step rt lib server) s later = some t) :
    later.countP Action.own ≤ work s ∧
    ((∀ a, a.own = true → step rt lib server t a = none) ↔ ∃ lost, t.reader = .returned lost) := by
  have h := soundReached ran
  have spends : later.countP Action.own + work t ≤ work s := by
    have bound : later.countP Action.own + work t ≤ work s + (later.map (fun _ => 0)).sum := by
      refine spent ?_ ?_ (Ending.mk h told) after
      · intro s a s' ending stepped
        exact stepEnding ending stepped
      · intro s a s' ending stepped
        exact stepWork ending stepped
    simpa using bound
  have all := runAppend ran after
  have last := soundReached all
  have cancelled : t.pool.cancelled = true :=
    (invariant (fun _ _ _ ending stepped => stepEnding ending stepped) (Ending.mk h told) after).told
  refine ⟨by omega, ?_, ?_⟩
  · intro stuck
    by_contra left
    obtain ⟨acts', calls⟩ := callsReached all
    obtain ⟨a, own, t', stepped⟩ : ∃ a, a.own = true ∧ ∃ t', step rt lib server t a = some t' :=
      runMoves last (RateBound.limitsReached calls) cancelled (fun lost here => left ⟨lost, here⟩)
    rw [stuck a own] at stepped
    cases stepped
  · rintro ⟨lost, returned⟩ a own
    exact returnedStill last returned own

theorem cancelledRunReturnsServing : ∃ s t,
    run (step Runtime.plenty FrameLib.plain (endpoint true true))
      (init 2 (RateLimit.new Runtime.plenty RateBound.strict) ExpiringStore.empty) beforeCancel = some s ∧
    run (step Runtime.plenty FrameLib.plain (endpoint true true)) s afterCancel = some t ∧
    afterCancel.countP Action.own = 9 ∧ 9 ≤ work s ∧
    ∀ a, a.own = true → step Runtime.plenty FrameLib.plain (endpoint true true) t a = none := by
  have computed : ((run (step Runtime.plenty FrameLib.plain (endpoint true true))
      (init 2 (RateLimit.new Runtime.plenty RateBound.strict) ExpiringStore.empty) beforeCancel).bind
      (fun s => (run (step Runtime.plenty FrameLib.plain (endpoint true true)) s afterCancel).map
        (fun t => (s.pool.cancelled, t.reader)))) = some (true, .returned (some ⟨ask 0, none⟩)) := by
    decide +kernel
  obtain ⟨s, ran, seen⟩ := Option.bind_eq_some_iff.mp computed
  obtain ⟨t, after, seen⟩ := Option.map_eq_some_iff.mp seen
  obtain ⟨told, returned⟩ := Prod.ext_iff.mp seen
  have nine : afterCancel.countP Action.own = 9 := by decide
  obtain ⟨bound, still⟩ := cancelledRunReturns ran told after
  exact ⟨s, t, ran, after, nine, nine ▸ bound, still.mpr ⟨_, returned⟩⟩

end Returns

end RetryEndpoint.ServerRun
