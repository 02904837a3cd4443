import RetryEndpoint.Shutdown

/-! That the process does end. Once the root context is cancelled, what is left for run to
wait for is counted down by the steps of the server, of the feeds and of run itself, whatever
the proxy, the outside and the datagrams still read do in between. -/
namespace RetryEndpoint.Shutdown
open BigEndian Wire Cache Retransmit RateLimit NackServer Runs WorkPool
open FrameCache (Node)
open Process (moves feedWork serverWork)

def ends {node : Node} : Action node → Bool
  | .process a => moves a
  | .server a => a.own
  | .proxy _ | .handle _ _ _ _ | .outside _ => false
  | .closeSockets | .closeBackend | .exit => true

def leaving : Process.Main → Bool
  | .joining _ | .returned _ => true
  | _ => false

def processWork (p : Process.State) : Nat :=
  (p.feeds.map feedWork).sum + serverWork p.server + if hasReturned p.main then 0 else 1

def openWork (closed : Bool) : Nat := if closed then 0 else 1

variable {β : Type}

def work (s : State β) : Nat :=
  processWork s.process + ServerRun.work s.endpoint.server +
    (openWork s.socketsClosed + openWork s.backendClosed + openWork s.exited)

section Main
variable {cfg : Process.Config} {p p' : Process.State}

theorem leavingStays {a : Process.Action} (on : leaving p.main = true) (stepped : Process.step cfg p a = some p') :
    leaving p'.main = true := by
  cases Process.stepTook stepped with
  | fail | ready | readOn | readOut | stop | serverReady | serverFail | serverDone | signal => exact on
  | report => rwa [Process.reportRest.2.1]
  | finish => rfl
  | beaconFails here | launched here | takeSignal here | takeFatal here | drain here | cancel here =>
    rw [here] at on
    cases on

theorem leavingOnce {a : Process.Action} (told : cancels a = true) (stepped : Process.step cfg p a = some p') :
    leaving p'.main = true := by
  cases Process.stepTook stepped with
  | beaconFails | cancel => rfl
  | _ => cases told

theorem feedWorks {i : Nat} {phase phase' : Process.Phase} (here : p.feeds[i]? = some phase)
    (feeds : p'.feeds = p.feeds.set i phase') (server : p'.server = p.server) (main : p'.main = p.main)
    (less : feedWork phase' < feedWork phase) : processWork p' + 1 ≤ processWork p := by
  have moved := movedSum (w := phase') here feedWork
  simp only [processWork, feeds, server, main]
  omega

theorem processWorks {a : Process.Action} (on : leaving p.main = true) (stepped : Process.step cfg p a = some p') :
    processWork p' + (if moves a then 1 else 0) ≤ processWork p := by
  cases Process.stepTook stepped with
  | fail here | ready here | stop here => exact feedWorks here rfl rfl rfl (by simp [feedWork])
  | readOn | signal => exact Nat.le_refl _
  | readOut here => exact Nat.le_of_succ_le (feedWorks here rfl rfl rfl (by simp [feedWork]))
  | report here =>
    obtain ⟨server, main, -⟩ := Process.reportRest
    exact feedWorks here Process.reportFeeds server main (by simp [feedWork])
  | serverReady here | serverFail here | serverDone here =>
    simp only [processWork, here, serverWork, moves, if_true]
    omega
  | finish here => simp [processWork, here, hasReturned, moves]
  | beaconFails here | launched here | takeSignal here | takeFatal here | drain here | cancel here =>
    rw [here] at on
    cases on

end Main

structure Placed (s : State β) : Prop where
  leaves : s.process.cancelled = true → leaving s.process.main = true
  told : s.process.cancelled = true → s.endpoint.server.pool.cancelled = true
  ready : s.process.server = .ready → s.served = true

structure Kept (lib : FrameLib) (node : Node) (workers : Nat) (s : State β) : Prop where
  sound : Sound lib node workers s
  placed : Placed s

section Keeps
variable {rt : Runtime β} {lib : FrameLib} {cfg : Process.Config} {node : Node} {workers : Nat} {s s' : State β}

theorem Sound.serverTold (h : Sound lib node workers s) {a : Endpoint.Action node} {endpoint : Endpoint.State β}
    (stepped : Endpoint.step rt lib node s.endpoint a = some endpoint)
    (told : s.endpoint.server.pool.cancelled = true) :
    endpoint.server.pool.cancelled = true ∧ ServerRun.work endpoint.server ≤ ServerRun.work s.endpoint.server := by
  obtain ⟨acts, ran⟩ := Endpoint.serverMoves stepped
  have start : ServerRun.Ending workers s.endpoint.server := ⟨h.whole.served, told⟩
  refine ⟨(invariant (fun _ _ _ ending moved => ServerRun.stepEnding ending moved) start ran).told, ?_⟩
  have bound : acts.countP ServerRun.Action.own + ServerRun.work endpoint.server ≤
      ServerRun.work s.endpoint.server + (acts.map (fun _ => 0)).sum :=
    spent (fun _ _ _ ending moved => ServerRun.stepEnding ending moved)
      (fun _ _ _ ending moved => ServerRun.stepWork ending moved) start ran
  simp only [List.map_const', List.sum_replicate_nat, Nat.mul_zero] at bound
  omega

theorem stepPlaced {a : Action node} (h : Kept lib node workers s) (stepped : step rt lib cfg node s a = some s') :
    Placed s' := by
  have told := h.placed.told
  cases stepTook stepped with
  | @process a process may quiet moved =>
    have same := cancelledStays quiet moved
    exact {
      leaves := fun cancelled => leavingStays (h.placed.leaves (same ▸ cancelled)) moved
      told := fun cancelled => told (same ▸ cancelled)
      ready := fun ready => Bool.or_eq_true_iff.mpr (.inr (beq_iff_eq.mpr ready)) }
  | @cancels a process endpoint on moved stopped =>
    exact {
      leaves := fun _ => leavingOnce on moved
      told := fun _ => by cases Endpoint.stepTook stopped; rfl
      ready := fun ready => Bool.or_eq_true_iff.mpr (.inr (beq_iff_eq.mpr ready)) }
  | server _ moved | proxy moved | handle _ moved | outside _ moved =>
    exact {
      leaves := h.placed.leaves
      told := fun cancelled => (h.sound.serverTold moved (told cancelled)).1
      ready := h.placed.ready }
  | closeSockets | closeBackend | exit => exact ⟨h.placed.leaves, told, h.placed.ready⟩

theorem stepKept {a : Action node} (h : Kept lib node workers s) (stepped : step rt lib cfg node s a = some s') :
    Kept lib node workers s' :=
  ⟨stepSound h.sound stepped, stepPlaced h stepped⟩

theorem initKept (lib : FrameLib) (cfg : Process.Config) (node : Node) (workers : Nat) (limiter : Limiter β) :
    Kept lib node workers (init cfg node workers limiter) :=
  ⟨initSound .., nofun, nofun, nofun⟩

theorem toldStays {a : Action node} (cancelled : s.process.cancelled = true)
    (stepped : step rt lib cfg node s a = some s') : s'.process.cancelled = true := by
  cases stepTook stepped with
  | process may quiet moved => exact (cancelledStays quiet moved).trans cancelled
  | cancels on moved => exact cancelledBy on moved
  | _ => exact cancelled

theorem stepWorks {a : Action node} (h : Kept lib node workers s) (cancelled : s.process.cancelled = true)
    (stepped : step rt lib cfg node s a = some s') : work s' + (if ends a then 1 else 0) ≤ work s := by
  have live : s.exited = false := by
    cases exited : s.exited with
    | false => rfl
    | true => simp [step, exited] at stepped
  have on := h.placed.leaves cancelled
  have told := h.placed.told cancelled
  cases stepTook stepped with
  | process may quiet moved =>
    have less := processWorks on moved
    change _ + (if moves _ then 1 else 0) ≤ _
    simp only [work]
    omega
  | @cancels a process endpoint told moved stopped =>
    have less := processWorks on moved
    have kept := (h.sound.serverTold stopped (h.placed.told cancelled)).2
    change _ + (if moves _ then 1 else 0) ≤ _
    simp only [work]
    omega
  | @server a endpoint served moved =>
    have less : ServerRun.work endpoint.server + (if a.own then 1 else 0) ≤ ServerRun.work s.endpoint.server := by
      cases Endpoint.stepTook moved with
      | server own inner offered => exact ServerRun.stepWork ⟨h.sound.whole.served, told⟩ inner
    change _ + (if a.own then 1 else 0) ≤ _
    simp only [work]
    omega
  | proxy moved | handle _ moved | outside _ moved =>
    have kept := (h.sound.serverTold moved told).2
    simp only [work, ends, Bool.false_eq_true, if_false]
    omega
  | closeSockets _ isOpen | closeBackend _ isOpen =>
    simp only [work, ends, isOpen, openWork, if_true, Bool.false_eq_true, if_false]
    omega
  | exit =>
    simp only [work, ends, live, openWork, if_true, Bool.false_eq_true, if_false]
    omega

theorem enqueues {c : Proxy.Client} (jobs : List Proxy.Job) (p : ProxyRun.State) :
    ∃ p', run (ProxyRun.step lib c) p (jobs.map .enqueue) = some p' := by
  induction jobs generalizing p with
  | nil => exact ⟨p, rfl⟩
  | cons job rest ih =>
    obtain ⟨p', moved⟩ : ∃ p', ProxyRun.step lib c p (.enqueue job) = some p' := by
      simp only [ProxyRun.step]
      split <;> exact ⟨_, rfl⟩
    obtain ⟨p'', tail⟩ := ih p'
    exact ⟨p'', runFirst moved tail⟩

theorem serverSteps {e : Endpoint.State β} {a : ServerRun.Action node.server} {server : ServerRun.State β}
    (own : a.own = true) (moved : ServerRun.step rt lib node.server e.server a = some server) :
    ∃ e', Endpoint.step rt lib node e (.server a) = some e' := by
  obtain ⟨proxy, offered⟩ : ∃ proxy, run (ProxyRun.step lib node.client) e.proxy
      ((Endpoint.jobsIn (Endpoint.added e.server server)).map .enqueue) = some proxy := enqueues _ _
  exact ⟨_, by simp only [Endpoint.step, own, if_true, moved, bind, Option.bind_some, offered]; rfl⟩

theorem processSteps {a : Process.Action} {process : Process.State} (live : s.exited = false)
    (may : mayTake s a = true) (quiet : cancels a = false) (moved : Process.step cfg s.process a = some process) :
    ∃ s', step rt lib cfg node s (.process a) = some s' := by
  simp [step, live, may, moved, afterMain, quiet]

theorem waitedMoves {limits : RateLimit.Config} (h : Kept lib node workers s) (live : s.exited = false)
    (cancelled : s.process.cancelled = true) (answers : RateBound.Limits rt limits s.endpoint.server.calls)
    (left : s.process.allDone = false) :
    ∃ a, ends a = true ∧ ∃ s', step rt lib cfg node s a = some s' := by
  rcases Bool.and_eq_false_iff.mp left with feeds | server
  · obtain ⟨phase, mem, unfinished⟩ := List.all_eq_false.mp feeds
    obtain ⟨i, here⟩ := List.mem_iff_getElem?.mp mem
    cases phase with
    | starting => exact ⟨.process (.ready i), rfl, processSteps live rfl rfl (if_pos here)⟩
    | receiving => exact ⟨.process (.stop i), rfl, processSteps live rfl rfl (if_pos ⟨here, cancelled⟩)⟩
    | returned err was =>
      have reports : Process.step cfg s.process (.report i) = some (s.process.report cfg i err was) := by
        simp only [Process.step, here]
      exact ⟨.process (.report i), rfl, processSteps live rfl rfl reports⟩
    | finished was => cases was <;> exact absurd rfl unfinished
  · cases phase : s.process.server with
    | starting => exact ⟨.process .serverFail, rfl, processSteps live rfl rfl (if_pos phase)⟩
    | ready =>
      by_cases back : returned s.endpoint.server = true
      · exact ⟨.process .serverDone, rfl, processSteps live back rfl (if_pos ⟨phase, cancelled⟩)⟩
      · have reading : ∀ lost, s.endpoint.server.reader ≠ .returned lost := by
          intro lost here
          rw [returned, here] at back
          exact back rfl
        obtain ⟨a, own, server, moved⟩ : ∃ a, a.own = true ∧
            ∃ server, ServerRun.step rt lib node.server s.endpoint.server a = some server :=
          ServerRun.runMoves h.sound.whole.served answers (h.placed.told cancelled) reading
        obtain ⟨endpoint, stepped⟩ := serverSteps own moved
        exact ⟨.server a, own, by simp [step, live, h.placed.ready phase, stepped]⟩
    | returned =>
      rw [phase] at server
      cases server

theorem cancelledMoves {limits : RateLimit.Config} (h : Kept lib node workers s) (live : s.exited = false)
    (cancelled : s.process.cancelled = true) (answers : RateBound.Limits rt limits s.endpoint.server.calls) :
    ∃ a, ends a = true ∧ ∃ s', step rt lib cfg node s a = some s' := by
  have on := h.placed.leaves cancelled
  cases main : s.process.main with
  | joining e =>
    cases done : s.process.allDone with
    | true =>
      have finishes : Process.step cfg s.process .finish = some { s.process with main := .returned e } := by
        simp only [Process.step, main, done, if_true]
      exact ⟨.process .finish, rfl, processSteps live rfl rfl finishes⟩
    | false => exact waitedMoves h live cancelled answers done
  | returned e =>
    cases sockets : s.socketsClosed with
    | false => exact ⟨.closeSockets, rfl, by simp [step, live, main, hasReturned, sockets]⟩
    | true =>
      cases backend : s.backendClosed with
      | false => exact ⟨.closeBackend, rfl, by simp [step, live, sockets, backend]⟩
      | true => exact ⟨.exit, rfl, by simp [step, live, backend]⟩
  | _ => rw [main] at on; cases on

end Keeps

def untilTold : List (Action FrameCache.node) := lateDelivery.take 21

def untilExit : List (Action FrameCache.node) := lateDelivery.drop 21 ++ [.closeBackend, .exit]

section Reached
variable {rt : Runtime β} {lib : FrameLib} {cfg : Process.Config} {node : Node} {workers : Nat}
  {limiter : Limiter β} {limits : RateLimit.Config} {as later : List (Action node)} {s t : State β}

theorem keptReached (ran : run (step rt lib cfg node) (init cfg node workers limiter) as = some s) :
    Kept lib node workers s :=
  invariant (fun _ _ _ kept stepped => stepKept kept stepped) (initKept ..) ran

theorem endpointReached (ran : run (step rt lib cfg node) (init cfg node workers limiter) as = some s) :
    ∃ acts, run (Endpoint.step rt lib node) (Endpoint.init node workers limiter) acts = some s.endpoint := by
  have maps : ∀ (s : State β) (a : Action node) (s' : State β), True → step rt lib cfg node s a = some s' →
      s'.endpoint = s.endpoint ∨ ∃ b, Endpoint.step rt lib node s.endpoint b = some s'.endpoint := by
    intro s a s' _ stepped
    cases stepTook stepped with
    | cancels _ _ moved | server _ moved | proxy moved | handle _ moved | outside _ moved => exact .inr ⟨_, moved⟩
    | process | closeSockets | closeBackend | exit => exact .inl rfl
  exact refines (fun _ _ _ _ _ => trivial) maps trivial ran

theorem answersReached (ran : run (step rt lib cfg node) (init cfg node workers (RateLimit.new rt limits)) as = some s) :
    RateBound.Limits rt limits s.endpoint.server.calls := by
  obtain ⟨acts, endpoint⟩ := endpointReached ran
  obtain ⟨acts', server⟩ := Endpoint.serverReached endpoint
  obtain ⟨acts'', calls⟩ := ServerRun.callsReached server
  exact RateBound.limitsReached calls

/-- Once the root context is cancelled, the server, the feeds and run take only so many steps
more towards the end, whatever the proxy's workers, the datagrams still read and the outside do
meanwhile; and none of them can take a step only when the process has exited, with the sockets
and the backend closed. -/
theorem cancelledProcessExits
    (ran : run (step rt lib cfg node) (init cfg node workers (RateLimit.new rt limits)) as = some s)
    (cancelled : s.process.cancelled = true) (after : run (step rt lib cfg node) s later = some t) :
    later.countP ends ≤ work s ∧
    ((∀ a, ends a = true → step rt lib cfg node t a = none) ↔ t.exited = true) := by
  have start : Kept lib node workers s ∧ s.process.cancelled = true := ⟨keptReached ran, cancelled⟩
  have keeps : ∀ (s : State β) (a : Action node) (s' : State β),
      Kept lib node workers s ∧ s.process.cancelled = true → step rt lib cfg node s a = some s' →
      Kept lib node workers s' ∧ s'.process.cancelled = true :=
    fun _ _ _ ending stepped => ⟨stepKept ending.1 stepped, toldStays ending.2 stepped⟩
  refine ⟨?_, ?_, ?_⟩
  · have bound : later.countP ends + work t ≤ work s + (later.map (fun _ => 0)).sum :=
      spent keeps (fun _ _ _ ending stepped => stepWorks ending.1 ending.2 stepped) start after
    simp only [List.map_const', List.sum_replicate_nat, Nat.mul_zero] at bound
    omega
  · intro stuck
    by_contra left
    obtain ⟨kept, told⟩ := invariant keeps start after
    obtain ⟨a, own, t', stepped⟩ : ∃ a, ends a = true ∧ ∃ t', step rt lib cfg node t a = some t' :=
      cancelledMoves kept (Bool.eq_false_iff.mpr left) told (answersReached (runAppend ran after))
    rw [stuck a own] at stepped
    cases stepped
  · intro exited a _
    simp [step, exited]

theorem cancelledProcessExitsLate : ∃ s t,
    run (step Runtime.plenty FrameLib.plain Process.oneWorker FrameCache.node)
      (init Process.oneWorker FrameCache.node 2 (RateLimit.new Runtime.plenty RateBound.strict)) untilTold = some s ∧
    run (step Runtime.plenty FrameLib.plain Process.oneWorker FrameCache.node) s untilExit = some t ∧
    untilExit.countP ends = 11 ∧ 11 ≤ work s ∧
    ∀ a, ends a = true → step Runtime.plenty FrameLib.plain Process.oneWorker FrameCache.node t a = none := by
  have computed : ((run (step Runtime.plenty FrameLib.plain Process.oneWorker FrameCache.node)
      (init Process.oneWorker FrameCache.node 2 (RateLimit.new Runtime.plenty RateBound.strict)) untilTold).bind
      (fun s => (run (step Runtime.plenty FrameLib.plain Process.oneWorker FrameCache.node) s untilExit).map
        (fun t => (s.process.cancelled, t.exited)))) = some (true, true) := by
    decide +kernel
  obtain ⟨s, ran, seen⟩ := Option.bind_eq_some_iff.mp computed
  obtain ⟨t, after, seen⟩ := Option.map_eq_some_iff.mp seen
  obtain ⟨told, exited⟩ := Prod.ext_iff.mp seen
  have eleven : untilExit.countP ends = 11 := by decide
  obtain ⟨bound, still⟩ := cancelledProcessExits ran told after
  exact ⟨s, t, ran, after, eleven, eleven ▸ bound, still.mpr exited⟩

end Reached

end RetryEndpoint.Shutdown
