import RetryEndpoint.EndpointTraffic
import RetryEndpoint.Process

/-! How the process ends. The deferred calls of run close the egress sockets and then the
cache backend, once run is on its way out. Before that it has waited for the server and
the feeds, but not for the proxy's workers, which nothing waits for; and when the beacon
finds no address it waits for nobody. Every use of the two that a step may make is recorded
with whether it was closed by then. What an operation on a closed one answers is left to
the outside. -/
namespace RetryEndpoint.Shutdown
open BigEndian Wire Cache Retransmit RateLimit NackServer Runs WorkPool
open FrameCache (Node)
open Endpoint (Whole)

inductive User where | server | proxy (ticket : Nat) | ingress deriving DecidableEq, Repr

inductive Resource where | egress | unicast | backend deriving DecidableEq, Repr

structure Use where
  user : User
  resource : Resource
  closed : Bool
  deriving DecidableEq, Repr

structure State (β : Type) where
  process : Process.State
  endpoint : Endpoint.State β
  served : Bool
  socketsClosed : Bool
  backendClosed : Bool
  exited : Bool
  uses : List Use

inductive Action (node : Node) where
  | process (a : Process.Action)
  | server (a : ServerRun.Action node.server)
  | proxy (a : ProxyRun.Action node.client)
  | handle (feed : Nat) (p : Ingress.Processor) (d : Ingress.Datagram) (fault : Fault)
  | outside (a : Endpoint.Action node)
  | closeSockets
  | closeBackend
  | exit

variable {β : Type}

def init (cfg : Process.Config) (node : Node) (workers : Nat) (limiter : Limiter β) : State β :=
  ⟨Process.init cfg, Endpoint.init node workers limiter, false, false, false, false, []⟩

def serverUses {server : Server} : ServerRun.Action server → List (User × Resource)
  | .call (.look _ _) => [(.server, .backend)]
  | .call (.send _ _) => [(.server, .egress), (.server, .unicast), (.server, .backend)]
  | _ => []

def proxyUses {c : Proxy.Client} : ProxyRun.Action c → List (User × Resource)
  | .claim id _ _ | .store id _ _ => [(.proxy id, .backend)]
  | .multicast id _ => [(.proxy id, .egress), (.proxy id, .backend)]
  | .unicast id _ => [(.proxy id, .unicast)]
  | _ => []

def isOutside {node : Node} : Endpoint.Action node → Bool
  | .tick _ | .sibling _ _ _ | .elsewhere _ | .evict _ => true
  | _ => false

def byServer {node : Node} : Endpoint.Action node → Bool
  | .server _ => true
  | _ => false

def State.isClosed (s : State β) : Resource → Bool
  | .egress | .unicast => s.socketsClosed
  | .backend => s.backendClosed

def State.use (s : State β) (uses : List (User × Resource)) : List Use :=
  uses.map (fun (user, r) => ⟨user, r, s.isClosed r⟩) ++ s.uses

def cancels : Process.Action → Bool
  | .cancel | .beacon true => true
  | _ => false

def returned (s : ServerRun.State β) : Bool := match s.reader with
  | .returned _ => true
  | _ => false

/- Server.Run returns once its read loop has, which waits for its workers. -/
def mayTake (s : State β) : Process.Action → Bool
  | .serverDone => returned s.endpoint.server
  | _ => true

def hasReturned : Process.Main → Bool
  | .returned _ => true
  | _ => false

section Step
variable (rt : Runtime β) (lib : FrameLib) (cfg : Process.Config) (node : Node)

def afterMain (s : Endpoint.State β) (a : Process.Action) : Option (Endpoint.State β) :=
  if cancels a then Endpoint.step rt lib node s .cancel else some s

def step (s : State β) (a : Action node) : Option (State β) :=
  if s.exited then none
  else match a with
    | .process a =>
      if mayTake s a then do
        let process ← Process.step cfg s.process a
        let endpoint ← afterMain rt lib node s.endpoint a
        some { s with process := process, endpoint := endpoint, served := s.served || process.server == .ready }
      else none
    | .server a =>
      if s.served then do
        let endpoint ← Endpoint.step rt lib node s.endpoint (.server a)
        some { s with endpoint := endpoint, uses := s.use (serverUses a) }
      else none
    | .proxy a => do
      let endpoint ← Endpoint.step rt lib node s.endpoint (.proxy a)
      some { s with endpoint := endpoint, uses := s.use (proxyUses a) }
    | .handle feed p d fault =>
      if s.process.feeds[feed]? = some .receiving then do
        let endpoint ← Endpoint.step rt lib node s.endpoint (.datagram p d fault)
        some { s with endpoint := endpoint, uses := s.use [(.ingress, .backend)] }
      else none
    | .outside a =>
      if isOutside a then do
        let endpoint ← Endpoint.step rt lib node s.endpoint a
        some { s with endpoint := endpoint }
      else none
    -- The deferred calls, the last deferred first.
    | .closeSockets =>
      if hasReturned s.process.main ∧ s.socketsClosed = false then some { s with socketsClosed := true } else none
    | .closeBackend =>
      if s.socketsClosed ∧ s.backendClosed = false then some { s with backendClosed := true } else none
    | .exit => if s.backendClosed then some { s with exited := true } else none

inductive Took (s : State β) : Action node → State β → Prop where
  | process {a process} (may : mayTake s a = true) (quiet : cancels a = false)
      (moved : Process.step cfg s.process a = some process) :
      Took s (.process a) { s with process := process, served := s.served || process.server == .ready }
  | cancels {a process endpoint} (told : cancels a = true) (moved : Process.step cfg s.process a = some process)
      (stopped : Endpoint.step rt lib node s.endpoint .cancel = some endpoint) :
      Took s (.process a) { s with
        process := process, endpoint := endpoint, served := s.served || process.server == .ready }
  | server {a endpoint} (served : s.served = true)
      (moved : Endpoint.step rt lib node s.endpoint (.server a) = some endpoint) :
      Took s (.server a) { s with endpoint := endpoint, uses := s.use (serverUses a) }
  | proxy {a endpoint} (moved : Endpoint.step rt lib node s.endpoint (.proxy a) = some endpoint) :
      Took s (.proxy a) { s with endpoint := endpoint, uses := s.use (proxyUses a) }
  | handle {feed p d fault endpoint} (receiving : s.process.feeds[feed]? = some .receiving)
      (moved : Endpoint.step rt lib node s.endpoint (.datagram p d fault) = some endpoint) :
      Took s (.handle feed p d fault) { s with endpoint := endpoint, uses := s.use [(.ingress, .backend)] }
  | outside {a endpoint} (apart : isOutside a = true)
      (moved : Endpoint.step rt lib node s.endpoint a = some endpoint) :
      Took s (.outside a) { s with endpoint := endpoint }
  | closeSockets (back : hasReturned s.process.main = true) (isOpen : s.socketsClosed = false) :
      Took s .closeSockets { s with socketsClosed := true }
  | closeBackend (first : s.socketsClosed = true) (isOpen : s.backendClosed = false) :
      Took s .closeBackend { s with backendClosed := true }
  | exit : Took s .exit { s with exited := true }

variable {rt lib cfg node}

theorem stepTook {s s' : State β} {a : Action node} (ok : step rt lib cfg node s a = some s') :
    Took rt lib cfg node s a s' := by
  unfold step at ok
  split at ok <;> try contradiction
  cases a with
  | process a =>
    dsimp only at ok
    split at ok <;> try contradiction
    rename_i may
    obtain ⟨process, moved, ok⟩ := Option.bind_eq_some_iff.mp ok
    obtain ⟨endpoint, stopped, ok⟩ := Option.bind_eq_some_iff.mp ok
    cases Option.some.inj ok
    unfold afterMain at stopped
    split at stopped
    · rename_i told
      exact .cancels told moved stopped
    · rename_i quiet
      cases Option.some.inj stopped
      exact .process may (Bool.eq_false_iff.mpr quiet) moved
  | server a =>
    dsimp only at ok
    split at ok <;> try contradiction
    rename_i served
    obtain ⟨endpoint, moved, ok⟩ := Option.bind_eq_some_iff.mp ok
    cases Option.some.inj ok
    exact .server served moved
  | proxy a =>
    obtain ⟨endpoint, moved, ok⟩ := Option.bind_eq_some_iff.mp ok
    cases Option.some.inj ok
    exact .proxy moved
  | handle feed p d fault =>
    dsimp only at ok
    split at ok <;> try contradiction
    rename_i receiving
    obtain ⟨endpoint, moved, ok⟩ := Option.bind_eq_some_iff.mp ok
    cases Option.some.inj ok
    exact .handle receiving moved
  | outside a =>
    dsimp only at ok
    split at ok <;> try contradiction
    rename_i apart
    obtain ⟨endpoint, moved, ok⟩ := Option.bind_eq_some_iff.mp ok
    cases Option.some.inj ok
    exact .outside apart moved
  | closeSockets =>
    dsimp only at ok
    split at ok <;> try contradiction
    rename_i back
    cases Option.some.inj ok
    exact .closeSockets back.1 back.2
  | closeBackend =>
    dsimp only at ok
    split at ok <;> try contradiction
    rename_i first
    cases Option.some.inj ok
    exact .closeBackend first.1 first.2
  | exit =>
    dsimp only at ok
    split at ok <;> try contradiction
    cases Option.some.inj ok
    exact .exit

end Step

section Main
variable {cfg : Process.Config} {p p' : Process.State}

structure Joined (p : Process.State) : Prop where
  told : ∀ e, p.main = .joining e ∨ p.main = .returned e → p.cancelled = true
  done : ∀ e, p.main = .returned e → e ≠ some .beacon → p.allDone = true

theorem doneFeeds (done : p.allDone = true) {i : Nat} {phase : Process.Phase} (here : p.feeds[i]? = some phase) :
    ∃ live, phase = .finished live := by
  have all := (Bool.and_eq_true_iff.mp done).1
  have this := List.all_eq_true.mp all phase (List.mem_of_getElem? here)
  rcases Bool.or_eq_true_iff.mp this with is | is
  · exact ⟨true, eq_of_beq is⟩
  · exact ⟨false, eq_of_beq is⟩

theorem doneServer (done : p.allDone = true) : p.server = .returned :=
  eq_of_beq (Bool.and_eq_true_iff.mp done).2

theorem doneStays {a : Process.Action} (done : p.allDone = true) (stepped : Process.step cfg p a = some p') :
    p'.allDone = true := by
  cases Process.stepTook stepped with
  | fail here | ready here | readOn here | readOut here | stop here | report here =>
    obtain ⟨live, never⟩ := doneFeeds done here
    cases never
  | serverReady here | serverFail here | serverDone here =>
    rw [doneServer done] at here
    cases here
  | beaconFails | launched | signal | takeSignal | takeFatal | drain | cancel | finish => exact done

theorem mainStays {a : Process.Action} {e : Option Process.Failure} (back : p.main = .returned e)
    (stepped : Process.step cfg p a = some p') : p'.main = .returned e := by
  cases Process.stepTook stepped with
  | fail | ready | readOn | readOut | stop | serverReady | serverFail | serverDone | signal => exact back
  | report => exact Process.reportRest.2.1.trans back
  | beaconFails here | launched here | takeSignal here | takeFatal here | drain here | cancel here | finish here =>
    rw [back] at here
    cases here

theorem returnedStays {a : Process.Action} (back : hasReturned p.main = true)
    (stepped : Process.step cfg p a = some p') : hasReturned p'.main = true := by
  cases main : p.main with
  | returned e => rw [mainStays main stepped]; rfl
  | _ => rw [main] at back; cases back

theorem cancelledStays {a : Process.Action} (quiet : cancels a = false)
    (stepped : Process.step cfg p a = some p') : p'.cancelled = p.cancelled := by
  cases Process.stepTook stepped with
  | beaconFails | cancel => cases quiet
  | report => exact Process.reportRest.2.2
  | _ => rfl

theorem cancelledBy {a : Process.Action} (told : cancels a = true) (stepped : Process.step cfg p a = some p') :
    p'.cancelled = true := by
  cases Process.stepTook stepped with
  | beaconFails | cancel => rfl
  | _ => cases told

theorem serverPhase {a : Process.Action} (stepped : Process.step cfg p a = some p') :
    p'.server = p.server ∨ (p.server = .starting ∧ (p'.server = .ready ∨ p'.server = .returned)) ∨
      (a = .serverDone ∧ p.server = .ready ∧ p'.server = .returned) := by
  cases Process.stepTook stepped with
  | serverReady here => exact .inr (.inl ⟨here, .inl rfl⟩)
  | serverFail here => exact .inr (.inl ⟨here, .inr rfl⟩)
  | serverDone here => exact .inr (.inr ⟨rfl, here, rfl⟩)
  | report => exact .inl Process.reportRest.1
  | _ => exact .inl rfl

theorem stepJoined {a : Process.Action} (h : Joined p) (stepped : Process.step cfg p a = some p') : Joined p' := by
  cases Process.stepTook stepped with
  | fail | ready | readOn | readOut | stop | serverReady | serverFail | serverDone | signal =>
    exact ⟨h.told, fun e back plain => doneStays (h.done e back plain) stepped⟩
  | report =>
    obtain ⟨-, main, cancelled⟩ := Process.reportRest
    refine ⟨?_, ?_⟩
    · rw [main, cancelled]
      exact h.told
    · intro e back plain
      exact doneStays (h.done e (main ▸ back) plain) stepped
  | beaconFails here =>
    refine ⟨fun _ _ => rfl, ?_⟩
    intro e back plain
    cases back
    exact absurd rfl plain
  | launched | takeSignal | takeFatal | drain => exact ⟨nofun, nofun⟩
  | cancel => exact ⟨fun _ _ => rfl, nofun⟩
  | @finish e here done => exact ⟨fun _ _ => h.told e (.inl here), fun _ _ _ => done⟩

end Main

def hot : ProxyRun.Phase → Bool
  | .asking _ | .waiting _ | .storing _ | .multicasting _ | .unicasting _ => true
  | _ => false

def isPast : Resource → ProxyRun.Phase → Bool
  | .egress, .unicasting _ | .egress, .closing _ | .unicast, .closing _ | _, .done _ => true
  | _, _ => false

def sends {c : Proxy.Client} : ProxyRun.Action c → Option (Nat × Resource)
  | .multicast id _ => some (id, .egress)
  | .unicast id _ => some (id, .unicast)
  | _ => none

def isProxy : User → Bool
  | .proxy _ => true
  | _ => false

def lateSend (u : Use) : Bool := u.closed && isProxy u.user && u.resource != .backend

structure Late (few : List Nat) (p : ProxyRun.State) (sent : List Use) : Prop where
  told : p.pool.cancelled = true
  once : sent.Nodup
  past : ∀ u ∈ sent, ∃ id ∈ few, u.user = .proxy id ∧
    ∃ j phase, p.jobs id = some (j, phase) ∧ isPast u.resource phase = true
  within : ∀ id j phase, p.jobs id = some (j, phase) → hot phase = true → id ∈ few

section Late
variable {lib : FrameLib} {c : Proxy.Client} {p p' : ProxyRun.State} {few : List Nat} {sent : List Use}

theorem Late.move (h : Late few p sent) {id : Nat} {j : Proxy.Job} {phase phase' : ProxyRun.Phase}
    (here : p.jobs id = some (j, phase)) (moved : p'.jobs = Function.update p.jobs id (some (j, phase')))
    (told : p'.pool.cancelled = true) (cools : hot phase' = true → hot phase = true)
    (stays : ∀ r, isPast r phase = true → isPast r phase' = true) : Late few p' sent := by
  refine ⟨told, h.once, ?_, ?_⟩
  · intro u mem
    obtain ⟨k, inFew, user, j', was, there, past⟩ := h.past u mem
    refine ⟨k, inFew, user, ?_⟩
    by_cases same : k = id
    · subst same
      cases here.symm.trans there
      exact ⟨j, phase', by rw [moved, Function.update_self], stays _ past⟩
    · exact ⟨j', was, by rw [moved, Function.update_of_ne same, there], past⟩
  · intro k j' is there warm
    rw [moved] at there
    rcases movedCases there with ⟨rfl, same⟩ | ⟨-, old⟩
    · cases same
      exact h.within k j phase here (cools warm)
    · exact h.within k j' is old warm

theorem stepLate {a : ProxyRun.Action c} (h : Late few p sent) (sound : ProxyRun.Sound c p)
    (stepped : ProxyRun.step lib c p a = some p') : Late few p' sent := by
  cases ProxyRun.stepTook stepped with
  | queued | dropped | outside | finish | exit => exact ⟨h.told, h.once, h.past, h.within⟩
  | cancel => exact ⟨rfl, h.once, h.past, h.within⟩
  | @take i j rest idle next =>
    refine ⟨h.told, h.once, ?_, ?_⟩
    · intro u mem
      obtain ⟨k, inFew, user, j', was, there, past⟩ := h.past u mem
      have other : k ≠ p.pool.taken.length := Nat.ne_of_lt (sound.tracked.low there)
      exact ⟨k, inFew, user, j', was, (Function.update_of_ne other ..).trans there, past⟩
    · intro k j' is there warm
      rcases movedCases there with ⟨-, same⟩ | ⟨-, old⟩
      · cases same
        cases warm
      · exact h.within k j' is old warm
  | looked here low quiet =>
    rw [h.told] at quiet
    cases quiet
  | counted here | claimed here | deduped here | stopped here | exhausted here | asked here | unreached here
  | heard here | missed here | stored here | multicast here | unicast here | closed here =>
    refine h.move here rfl h.told (by simp [hot]) ?_
    intro r
    cases r <;> simp [isPast]

theorem Late.send (h : Late few p sent) (sound : ProxyRun.Sound c p) {a : ProxyRun.Action c}
    (stepped : ProxyRun.step lib c p a = some p') {id : Nat} {r : Resource} (now : sends a = some (id, r)) :
    Late few p' (⟨.proxy id, r, true⟩ :: sent) := by
  have after := stepLate h sound stepped
  have fresh : ∀ {j phase}, p.jobs id = some (j, phase) → isPast r phase = false →
      (⟨.proxy id, r, true⟩ : Use) ∉ sent := by
    intro j phase here still mem
    obtain ⟨k, -, user, j', was, there, past⟩ := h.past _ mem
    cases user
    cases here.symm.trans there
    rw [still] at past
    cases past
  have cons : ∀ {j phase j' phase'}, p.jobs id = some (j, phase) → isPast r phase = false → hot phase = true →
      p'.jobs id = some (j', phase') → isPast r phase' = true → Late few p' (⟨.proxy id, r, true⟩ :: sent) := by
    intro j phase j' phase' here still warm there past
    refine ⟨after.told, List.nodup_cons.mpr ⟨fresh here still, h.once⟩, ?_, after.within⟩
    intro u mem
    rcases List.mem_cons.mp mem with rfl | old
    · exact ⟨id, h.within id j phase here warm, rfl, j', phase', there, past⟩
    · exact after.past u old
  cases ProxyRun.stepTook stepped with
  | multicast here | unicast here =>
    cases now
    exact cons here rfl rfl (Function.update_self ..) rfl
  | _ => cases now

theorem lateFew (h : ProxyRun.Sound c p) (told : p.pool.cancelled = true) :
    ∃ few : List Nat, few.Nodup ∧ few.length ≤ c.cfg.workers.toNat ∧ Late few p [] := by
  refine ⟨running ProxyRun.isDone p.pool p.jobs, List.nodup_range.filter _,
    h.workers ▸ h.pool.runningFew h.tracked, told, List.nodup_nil, nofun, ?_⟩
  intro id j phase here warm
  refine List.mem_filter.mpr ⟨List.mem_range.mpr (h.tracked.low here), ?_⟩
  cases phase with
  | done => cases warm
  | _ => simp [inCall, here, ProxyRun.isDone]

end Late

def Early (s : State β) : Prop := s.process.main = .returned (some .beacon)

structure Sound (lib : FrameLib) (node : Node) (workers : Nat) (s : State β) : Prop where
  whole : Whole lib node workers s.endpoint
  joined : Joined s.process
  told : s.process.cancelled = true → s.endpoint.proxy.pool.cancelled = true
  unserved : s.process.server = .starting → s.served = false
  gone : s.process.server = .returned → s.served = true → returned s.endpoint.server = true
  late : s.socketsClosed = true ∨ s.backendClosed = true → hasReturned s.process.main = true
  users : Early s ∨ ∀ u ∈ s.uses, u.closed = true → isProxy u.user = true
  before : s.process.cancelled = false → s.uses.filter lateSend = []
  after : s.process.cancelled = true → ∃ few : List Nat, few.Nodup ∧ few.length ≤ node.client.cfg.workers.toNat ∧
    Late few s.endpoint.proxy (s.uses.filter lateSend)

section Keeps
variable {rt : Runtime β} {lib : FrameLib} {cfg : Process.Config} {node : Node} {workers : Nat} {s s' : State β}

theorem initSound (lib : FrameLib) (cfg : Process.Config) (node : Node) (workers : Nat) (limiter : Limiter β) :
    Sound lib node workers (init cfg node workers limiter) where
  whole := Endpoint.initWhole ..
  joined := ⟨nofun, nofun⟩
  told := nofun
  unserved := fun _ => rfl
  gone := nofun
  late := by rintro (never | never) <;> cases never
  users := .inr nofun
  before := fun _ => rfl
  after := nofun

theorem Sound.closedDone (h : Sound lib node workers s) {r : Resource} (closed : s.isClosed r = true) :
    s.process.cancelled = true ∧ (Early s ∨ s.process.allDone = true) := by
  have back : hasReturned s.process.main = true := by
    cases r with
    | egress | unicast => exact h.late (.inl closed)
    | backend => exact h.late (.inr closed)
  cases main : s.process.main with
  | returned e =>
    refine ⟨h.joined.told e (.inr main), ?_⟩
    by_cases plain : e = some .beacon
    · subst plain
      exact .inl main
    · exact .inr (h.joined.done e main plain)
  | _ => rw [main] at back; cases back

theorem lateKept {a : Endpoint.Action node} {e e' : Endpoint.State β} {few : List Nat} {sent : List Use}
    (whole : Whole lib node workers e) (h : Late few e.proxy sent)
    (stepped : Endpoint.step rt lib node e a = some e') : Late few e'.proxy sent := by
  obtain ⟨acts, ran⟩ := Endpoint.proxyMoves stepped
  have start : Late few e.proxy sent ∧ ProxyRun.Sound node.client e.proxy := ⟨h, whole.paid.sound⟩
  have keeps : ∀ (p : ProxyRun.State) (a : ProxyRun.Action node.client) (p' : ProxyRun.State),
      Late few p sent ∧ ProxyRun.Sound node.client p → ProxyRun.step lib node.client p a = some p' →
      Late few p' sent ∧ ProxyRun.Sound node.client p' :=
    fun _ _ _ both moved => ⟨stepLate both.1 both.2 moved, ProxyRun.stepSound both.2 moved⟩
  exact (invariant keeps start ran).1

theorem Sound.stillTold (h : Sound lib node workers s) {a : Endpoint.Action node} {endpoint : Endpoint.State β}
    (stepped : Endpoint.step rt lib node s.endpoint a = some endpoint) (cancelled : s.process.cancelled = true) :
    endpoint.proxy.pool.cancelled = true := by
  obtain ⟨few, -, -, late⟩ := h.after cancelled
  exact (lateKept h.whole late stepped).told

theorem Sound.processSteps (h : Sound lib node workers s) {a : Process.Action} {process : Process.State}
    (may : mayTake s a = true) (moved : Process.step cfg s.process a = some process) :
    (process.server = .starting → (s.served || process.server == .ready) = false) ∧
    (process.server = .returned → (s.served || process.server == .ready) = true →
      returned s.endpoint.server = true) := by
  rcases serverPhase moved with same | ⟨starting, ready | failed⟩ | ⟨rfl, ready, ended⟩
  · rw [same]
    refine ⟨?_, ?_⟩
    · intro starting
      rw [h.unserved starting, starting]
      rfl
    · intro ended served
      rw [ended, Bool.or_eq_true_iff] at served
      rcases served with before | never
      · exact h.gone ended before
      · cases never
  · rw [ready]
    exact ⟨nofun, nofun⟩
  · rw [failed, h.unserved starting]
    exact ⟨nofun, nofun⟩
  · rw [ended]
    exact ⟨nofun, fun _ _ => may⟩

theorem readerKept {a : Endpoint.Action node} {e e' : Endpoint.State β}
    (stepped : Endpoint.step rt lib node e a = some e') (apart : byServer a = false) :
    returned e'.server = returned e.server := by
  cases Endpoint.stepTook stepped with
  | server => cases apart
  | _ => rfl

theorem noneReturned (h : Sound lib node workers s) (back : returned s.endpoint.server = true)
    {a : ServerRun.Action node.server} : Endpoint.step rt lib node s.endpoint (.server a) = none := by
  rw [Option.eq_none_iff_forall_not_mem]
  intro e' stepped
  cases Endpoint.stepTook stepped with
  | server own moved offered =>
    cases reader : s.endpoint.server.reader with
    | returned lost =>
      rw [ServerRun.returnedStill h.whole.served reader own] at moved
      cases moved
    | _ =>
      rw [returned, reader] at back
      cases back

theorem useLate {uses : List (User × Resource)} (others : ∀ use ∈ uses, isProxy use.1 = false) :
    (s.use uses).filter lateSend = s.uses.filter lateSend := by
  have none : (uses.map (fun (user, r) => (⟨user, r, s.isClosed r⟩ : Use))).filter lateSend = [] := by
    rw [List.filter_eq_nil_iff]
    intro u mem
    obtain ⟨use, mine, rfl⟩ := List.mem_map.mp mem
    simp [lateSend, others use mine]
  rw [State.use, List.filter_append, none, List.nil_append]

theorem notProxy {a : ServerRun.Action node.server} {use : User × Resource} (mine : use ∈ serverUses a) :
    isProxy use.1 = false := by
  unfold serverUses at mine
  split at mine
  · cases List.mem_singleton.mp mine
    rfl
  · simp only [List.mem_cons, List.not_mem_nil, or_false] at mine
    rcases mine with rfl | rfl | rfl <;> rfl
  · cases mine

theorem byProxy {a : ProxyRun.Action node.client} {use : User × Resource} (mine : use ∈ proxyUses a) :
    isProxy use.1 = true := by
  cases a with
  | claim | store | unicast =>
    cases List.mem_singleton.mp mine
    rfl
  | multicast =>
    rcases List.mem_pair.mp mine with rfl | rfl <;> rfl
  | _ => cases mine

theorem proxyUseLate (a : ProxyRun.Action node.client) :
    (s.use (proxyUses a)).filter lateSend =
      (if s.socketsClosed then (sends a).toList.map (fun (id, r) => ⟨.proxy id, r, true⟩) else []) ++
        s.uses.filter lateSend := by
  cases a <;> cases closed : s.socketsClosed <;>
    simp [State.use, proxyUses, sends, lateSend, isProxy, State.isClosed, closed]

theorem proxyLate (whole : Whole lib node workers s.endpoint) {few : List Nat} {sent : List Use}
    (h : Late few s.endpoint.proxy sent) {a : ProxyRun.Action node.client} {endpoint : Endpoint.State β}
    (stepped : Endpoint.step rt lib node s.endpoint (.proxy a) = some endpoint) :
    Late few endpoint.proxy
      ((if s.socketsClosed then (sends a).toList.map (fun (id, r) => ⟨.proxy id, r, true⟩) else []) ++ sent) := by
  have kept := lateKept whole h stepped
  split
  · cases send : sends a with
    | none => exact kept
    | some call =>
      cases Endpoint.stepTook stepped with
      | @proxy _ proxy own moved =>
        have same : sends (Endpoint.onTime s.endpoint.now a) = some call := by
          rw [← send]
          cases a <;> rfl
        have after := h.send whole.paid.sound moved same
        exact ⟨after.told, after.once, after.past, after.within⟩
  · exact kept

theorem Sound.advance (h : Sound lib node workers s) {a : Endpoint.Action node} {endpoint : Endpoint.State β}
    {uses : List Use} (moved : Endpoint.step rt lib node s.endpoint a = some endpoint)
    (gone : s.process.server = .returned → s.served = true → returned endpoint.server = true)
    (users : Early s ∨ ∀ u ∈ uses, u.closed = true → isProxy u.user = true)
    (before : s.process.cancelled = false → uses.filter lateSend = [])
    (after : ∀ few : List Nat, Late few s.endpoint.proxy (s.uses.filter lateSend) →
      Late few endpoint.proxy (uses.filter lateSend)) :
    Sound lib node workers { s with endpoint := endpoint, uses := uses } where
  whole := Endpoint.stepWhole h.whole moved
  joined := h.joined
  told := h.stillTold moved
  unserved := h.unserved
  gone := gone
  late := h.late
  users := users
  before := before
  after := fun cancelled => by
    obtain ⟨few, once, bound, late⟩ := h.after cancelled
    exact ⟨few, once, bound, after few late⟩

theorem Sound.openWaited (h : Sound lib node workers s) (waited : s.process.allDone = false) :
    Early s ∨ ∀ r, s.isClosed r = false := by
  by_cases closed : ∃ r, s.isClosed r = true
  · obtain ⟨r, closed⟩ := closed
    refine (h.closedDone closed).2.imp_right fun done => ?_
    rw [waited] at done
    cases done
  · exact .inr fun r => Bool.eq_false_iff.mpr fun shut => closed ⟨r, shut⟩

theorem Sound.moves (h : Sound lib node workers s) {a : Endpoint.Action node} {endpoint : Endpoint.State β}
    {uses : List (User × Resource)} (moved : Endpoint.step rt lib node s.endpoint a = some endpoint)
    (others : ∀ use ∈ uses, isProxy use.1 = false) (waited : s.process.allDone = false)
    (gone : s.process.server = .returned → s.served = true → returned endpoint.server = true) :
    Sound lib node workers { s with endpoint := endpoint, uses := s.use uses } := by
  refine h.advance moved gone ?_ (fun live => (useLate others).trans (h.before live)) ?_
  · rcases h.users with early | proxies
    · exact .inl early
    · refine (h.openWaited waited).imp_right fun isOpen u mem closed => ?_
      rcases List.mem_append.mp mem with new | old
      · obtain ⟨use, -, rfl⟩ := List.mem_map.mp new
        exact absurd closed (Bool.eq_false_iff.mp (isOpen use.2))
      · exact proxies u old closed
  · intro few late
    rw [useLate others]
    exact lateKept h.whole late moved

theorem Sound.proxyMoves (h : Sound lib node workers s) {a : ProxyRun.Action node.client}
    {endpoint : Endpoint.State β} (moved : Endpoint.step rt lib node s.endpoint (.proxy a) = some endpoint) :
    Sound lib node workers { s with endpoint := endpoint, uses := s.use (proxyUses a) } := by
  refine h.advance moved (fun ended served => (readerKept moved rfl).trans (h.gone ended served)) ?_ ?_ ?_
  · refine h.users.imp_right fun proxies u mem closed => ?_
    rcases List.mem_append.mp mem with new | old
    · obtain ⟨use, mine, rfl⟩ := List.mem_map.mp new
      exact byProxy mine
    · exact proxies u old closed
  · intro live
    have isOpen : s.socketsClosed = false := by
      rw [Bool.eq_false_iff]
      intro closed
      have told := (h.closedDone (r := .egress) closed).1
      rw [live] at told
      cases told
    rw [proxyUseLate, isOpen, h.before live]
    rfl
  · intro few late
    rw [proxyUseLate]
    exact proxyLate h.whole late moved

theorem Sound.cancels (h : Sound lib node workers s) {a : Process.Action} {process : Process.State}
    {endpoint : Endpoint.State β} (told : cancels a = true) (moved : Process.step cfg s.process a = some process)
    (stopped : Endpoint.step rt lib node s.endpoint .cancel = some endpoint) :
    Sound lib node workers
      { s with process := process, endpoint := endpoint, served := s.served || process.server == .ready } := by
  have may : mayTake s a = true := by
    cases a with
    | serverDone => cases told
    | _ => rfl
  obtain ⟨unserved, gone⟩ := h.processSteps may moved
  have whole := Endpoint.stepWhole h.whole stopped
  have proxyTold : endpoint.proxy.pool.cancelled = true := by cases Endpoint.stepTook stopped; rfl
  exact {
    whole := whole
    joined := stepJoined h.joined moved
    told := fun _ => proxyTold
    unserved := unserved
    gone := fun ended served => (readerKept stopped rfl).trans (gone ended served)
    late := fun closed => returnedStays (h.late closed) moved
    users := h.users.imp_left fun early => mainStays early moved
    before := fun live => by rw [cancelledBy told moved] at live; cases live
    after := fun _ => by
      cases already : s.process.cancelled with
      | false =>
        rw [h.before already]
        exact lateFew whole.paid.sound proxyTold
      | true =>
        obtain ⟨few, once, bound, late⟩ := h.after already
        exact ⟨few, once, bound, lateKept h.whole late stopped⟩ }

theorem stepSound {a : Action node} (h : Sound lib node workers s) (stepped : step rt lib cfg node s a = some s') :
    Sound lib node workers s' := by
  cases stepTook stepped with
  | @process a process may quiet moved =>
    obtain ⟨unserved, gone⟩ := h.processSteps may moved
    have same := cancelledStays quiet moved
    exact {
      whole := h.whole
      joined := stepJoined h.joined moved
      told := fun cancelled => h.told (same ▸ cancelled)
      unserved := unserved
      gone := gone
      late := fun closed => returnedStays (h.late closed) moved
      users := h.users.imp_left fun early => mainStays early moved
      before := fun live => h.before (same ▸ live)
      after := fun cancelled => h.after (same ▸ cancelled) }
  | cancels told moved stopped => exact h.cancels told moved stopped
  | @server a endpoint served moved =>
    have running : returned s.endpoint.server = false := by
      rw [Bool.eq_false_iff]
      intro back
      rw [noneReturned h back] at moved
      cases moved
    have waited : ∀ ended : s.process.server = .returned, False := by
      intro ended
      rw [h.gone ended served] at running
      cases running
    refine h.moves moved (fun _ mine => notProxy mine) ?_ fun ended => (waited ended).elim
    rw [Bool.eq_false_iff]
    exact fun done => waited (doneServer done)
  | proxy moved => exact h.proxyMoves moved
  | @handle feed p d fault endpoint receiving moved =>
    refine h.moves moved (by simp [isProxy]) ?_ fun ended served => (readerKept moved rfl).trans (h.gone ended served)
    rw [Bool.eq_false_iff]
    intro done
    obtain ⟨live, never⟩ := doneFeeds done receiving
    cases never
  | @outside a endpoint apart moved =>
    have own : byServer a = false := by
      cases a with
      | server => cases apart
      | _ => rfl
    exact h.advance moved (fun ended served => (readerKept moved own).trans (h.gone ended served)) h.users h.before
      fun _ late => lateKept h.whole late moved
  | closeSockets back => exact { h with late := fun _ => back }
  | closeBackend first => exact { h with late := fun _ => h.late (.inl first) }
  | exit => exact { h with }

theorem soundReached {as : List (Action node)} {limiter : Limiter β}
    (ran : run (step rt lib cfg node) (init cfg node workers limiter) as = some s) : Sound lib node workers s :=
  invariant (fun _ _ _ sound stepped => stepSound sound stepped) (initSound ..) ran

end Keeps

def lateDelivery : List (Action FrameCache.node) :=
  [.process (.ready 0), .process .serverReady, .process (.beacon false), .server .look,
    .server (.read (.datagram (ask 0) (some listener))), .server .send, .server (.take 0), .server (.call (.ip 0)),
    .server (.call (.sequence 0)), .server (.call (.chain 0)), .server (.call (.look 0 false)), .server (.finish 0 0),
    .proxy (.take 0), .proxy (.count 0), .proxy (.claim 0 .none 0), .proxy (.look 0),
    .proxy (.ask 0 ⟨true, true, true, []⟩), .process .signal, .process .takeSignal, .process .drain, .process .cancel,
    .server .look, .server (.exit 0), .server (.exit 1), .server .join, .process .serverDone, .process (.stop 0),
    .process (.report 0), .process .finish, .closeSockets, .proxy (.hear 0 [ProxyRun.repair]),
    .proxy (.store 0 .none 0), .proxy (.multicast 0 (ProxyRun.someEnv _)), .proxy (.unicast 0 false)]

section Reached
variable {rt : Runtime β} {lib : FrameLib} {cfg : Process.Config} {node : Node} {workers : Nat}
  {limiter : Limiter β} {as : List (Action node)} {s : State β}

/-- Whatever the order of the goroutines' steps, unless run gave up at the beacon the server
and the feeds use neither the sockets nor the backend once closed: only the proxy's workers
do. Those of its recoveries that still send through closed sockets are no more than the
workers, and each of them multicasts at most once and unicasts at most once. -/
theorem closedUsesFew (ran : run (step rt lib cfg node) (init cfg node workers limiter) as = some s) :
    (s.process.main ≠ .returned (some .beacon) → ∀ u ∈ s.uses, u.closed = true → isProxy u.user = true) ∧
    (s.uses.filter lateSend).Nodup ∧
    ∃ few : List Nat, few.Nodup ∧ few.length ≤ node.client.cfg.workers.toNat ∧
      ∀ u ∈ s.uses, lateSend u = true → ∃ id ∈ few, u.user = .proxy id := by
  have sound := soundReached ran
  refine ⟨sound.users.resolve_left, ?_⟩
  cases cancelled : s.process.cancelled with
  | false =>
    have none := sound.before cancelled
    refine ⟨by rw [none]; exact List.nodup_nil, [], List.nodup_nil, Nat.zero_le _, ?_⟩
    intro u mem late
    have listed := List.mem_filter.mpr ⟨mem, late⟩
    rw [none] at listed
    cases listed
  | true =>
    obtain ⟨few, once, bound, late⟩ := sound.after cancelled
    refine ⟨late.once, few, once, bound, ?_⟩
    intro u mem is
    obtain ⟨id, inFew, user, -⟩ := late.past u (List.mem_filter.mpr ⟨mem, is⟩)
    exact ⟨id, inFew, user⟩

theorem closedUsesFewLate :
    ∃ s, run (step Runtime.plenty FrameLib.plain Process.oneWorker FrameCache.node)
        (init Process.oneWorker FrameCache.node 2 warm.limiter) lateDelivery = some s ∧
      s.process.main = .returned none ∧
      s.uses.filter lateSend = [⟨.proxy 0, .unicast, true⟩, ⟨.proxy 0, .egress, true⟩] ∧
      (∀ u ∈ s.uses, u.closed = true → isProxy u.user = true) ∧ (s.uses.filter lateSend).Nodup := by
  have computed : (run (step Runtime.plenty FrameLib.plain Process.oneWorker FrameCache.node)
      (init Process.oneWorker FrameCache.node 2 warm.limiter) lateDelivery).map
      (fun s => (s.process.main, s.uses.filter lateSend)) =
        some (.returned none, [⟨.proxy 0, .unicast, true⟩, ⟨.proxy 0, .egress, true⟩]) := by
    decide +kernel
  obtain ⟨s, ran, seen⟩ := Option.map_eq_some_iff.mp computed
  obtain ⟨main, late⟩ := Prod.ext_iff.mp seen
  obtain ⟨users, once, -⟩ := closedUsesFew ran
  refine ⟨s, ran, main, late, users ?_, once⟩
  intro early
  cases main.symm.trans early

end Reached

/- A beacon with no address: run returns at once, and a call still at work is answered
through closed sockets. -/
example : ((run (step Runtime.plenty FrameLib.plain { Process.oneWorker with beaconEnabled := true } FrameCache.node)
    (init { Process.oneWorker with beaconEnabled := true } FrameCache.node 2 warm.limiter)
    [.process (.ready 0), .process .serverReady, .handle 0 (.new false) ⟨cachedFrame, none⟩ .none, .server .look,
      .server (.read (.datagram (ask 0) (some listener))), .server .send, .server (.take 0), .server (.call (.ip 0)),
      .server (.call (.sequence 0)), .server (.call (.chain 0)), .server (.call (.look 0 false)),
      .process (.beacon true), .closeSockets, .server (.call (.group 0 FrameCache.quiet)),
      .server (.call (.send 0 FrameCache.quiet))]).map (fun s => s.uses.head?)) =
    some (some ⟨.server, .egress, true⟩) := by
  decide +kernel

end RetryEndpoint.Shutdown
