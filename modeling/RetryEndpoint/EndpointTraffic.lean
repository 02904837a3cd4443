import RetryEndpoint.EndpointAnswers

/-! What the endpoint asks of others. A job reaches the proxy only from a miss, in the
order of the misses, and a NACK goes upstream only for a job; so the traffic upstream is
paid for by the datagrams read that were not proxied themselves. -/
namespace RetryEndpoint.Endpoint
open BigEndian Wire Cache Retransmit RateLimit NackServer Runs
open FrameCache (Node)
open NackWorkers (Request Event)
open OneHop (jobsOf jobOf)

variable {β : Type}

def jobFor (req : Request) : Proxy.Job :=
  ⟨req.nack.hashKey, req.nack.startSeq, req.nack.subtreeID, req.src⟩

def unproxied (req : Request) : Bool := !req.nack.proxied

theorem jobsInAppend (newer older : List Event) : jobsIn (newer ++ older) = jobsIn older ++ jobsIn newer := by
  simp only [jobsIn, List.reverse_append, List.flatMap_append]

theorem memJobsIn {job : Proxy.Job} {history : List Event} (mem : job ∈ jobsIn history) :
    ∃ id req fx time, .did id req fx time ∈ history ∧ job ∈ jobsOf fx := by
  obtain ⟨e, there, mine⟩ := List.mem_flatMap.mp mem
  cases e with
  | did id req fx time => exact ⟨id, req, fx, time, List.mem_reverse.mp there, mine⟩
  | _ => cases mine

section Added
variable {rt : Runtime β} {lib : FrameLib} {server : Server}

theorem callGrows {c c' : NackWorkers.State β} {a : NackWorkers.Action server}
    (stepped : NackWorkers.step rt lib server c a = some c') : c.history <:+ c'.history := by
  cases NackWorkers.stepTook stepped with
  | tick | outside => exact List.suffix_refl _
  | _ => exact List.suffix_append ..

theorem serverGrows {s s' : ServerRun.State β} {a : ServerRun.Action server}
    (stepped : ServerRun.step rt lib server s a = some s') : s.calls.history <:+ s'.calls.history := by
  rcases ServerRun.stepCall stepped with same | ⟨b, moved⟩
  · rw [same]
  · exact callGrows moved

theorem addedIs {s s' : ServerRun.State β} (grown : s.calls.history <:+ s'.calls.history) :
    s'.calls.history = added s s' ++ s.calls.history := by
  obtain ⟨events, is⟩ := grown
  rw [added, ← is, List.length_append, Nat.add_sub_cancel, List.take_left]

end Added

section Offers
variable {lib : FrameLib} {c : Proxy.Client} {s s' : ProxyRun.State}

theorem enqueueRun {jobs : List Proxy.Job}
    (ran : run (ProxyRun.step lib c) s (jobs.map .enqueue) = some s') :
    s'.offered = s.offered + jobs.length ∧ ∃ more, more.Sublist jobs ∧ s'.pool.sent = s.pool.sent ++ more := by
  induction jobs generalizing s with
  | nil => cases Option.some.inj ran; exact ⟨rfl, [], List.Sublist.refl _, (List.append_nil _).symm⟩
  | cons job rest ih =>
    obtain ⟨mid, stepped, tail⟩ := runCons ran
    obtain ⟨offered, more, sub, sent⟩ := ih tail
    rw [List.length_cons, offered, sent]
    cases ProxyRun.stepTook stepped with
    | queued room =>
      refine ⟨by simp only; omega, job :: more, sub.cons_cons job, ?_⟩
      simp only [List.append_assoc, List.singleton_append]
    | dropped full => exact ⟨by simp only; omega, more, sub.cons job, rfl⟩

theorem ownOffers {a : ProxyRun.Action c} (own : a.own = true) (stepped : ProxyRun.step lib c s a = some s') :
    s'.offered = s.offered ∧ s'.pool.sent = s.pool.sent := by
  cases ProxyRun.stepTook stepped with
  | queued | dropped | cancel | outside => cases own
  | _ => exact ⟨rfl, rfl⟩

end Offers

structure Offered (s : State β) : Prop where
  all : s.proxy.offered = (jobsIn s.server.calls.history).length
  some : s.proxy.pool.sent.Sublist (jobsIn s.server.calls.history)

section Keeps
variable {rt : Runtime β} {lib : FrameLib} {node : Node} {s s' : State β}

theorem stepOffered {a : Action node} (h : Offered s) (stepped : step rt lib node s a = some s') :
    Offered s' := by
  cases stepTook stepped with
  | server own moved offered =>
    have grown := addedIs (serverGrows moved)
    obtain ⟨count, more, sub, sent⟩ := enqueueRun offered
    constructor
    · simp only [grown, jobsInAppend, List.length_append, count, h.all]
    · simp only [grown, jobsInAppend, sent]
      exact h.some.append sub
  | @proxy a proxy own moved =>
    have timed : (onTime s.now a).own = true := by cases a <;> exact own
    obtain ⟨count, sent⟩ := ownOffers timed moved
    exact ⟨count.trans h.all, sent ▸ h.some⟩
  | tick | cancel | datagram | sibling | elsewhere | evict => exact ⟨h.all, h.some⟩

end Keeps

section Misses
variable {lib : FrameLib} {server : Server} {history : List Event} {view : Journal} {id : Nat} {req : Request}
  {fx : List Effect}

theorem noJobs (none : ∀ hashKey seq subtree requester, .enqueue hashKey seq subtree requester ∉ fx) :
    jobsOf fx = [] := by
  refine List.filterMap_eq_nil_iff.mpr ?_
  intro e mem
  cases e with
  | enqueue hashKey seq subtree requester => exact absurd mem (none hashKey seq subtree requester)
  | _ => rfl

theorem Answer.jobs (h : Answer lib server history view id req fx) :
    jobsOf fx = [] ∨ jobsOf fx = [jobFor req] ∧ req.nack.proxied = false ∧ Saw history view id req none := by
  cases h with
  | throttled named denied =>
    refine .inl (noJobs ?_)
    intro hashKey seq subtree requester mem
    obtain ⟨dst, -, never⟩ := AckHonesty.throttleMem mem
    cases never
  | sent found => exact .inl (noJobs (fun _ _ _ _ => AckHonesty.dispatchNoJob))
  | missed absent =>
    have answer : jobsOf (server.miss req.src) = [] := by
      unfold Server.miss
      split
      · split <;> rfl
      · rfl
    unfold jobsOf at answer
    rw [Server.missed, jobsOf, List.filterMap_append, answer, List.nil_append]
    split
    · rename_i enabled
      simp only [Bool.and_eq_true, Bool.not_eq_true'] at enabled
      exact .inr ⟨rfl, enabled.2, absent⟩
    · exact .inl rfl

end Misses

def madeJob (e : Event) : Bool := !(eventJobs e).isEmpty

def jobCalls (history : List Event) : List Nat := (history.filter madeJob).filterMap didOf

theorem memJobCalls {history : List Event} {id : Nat} (mem : id ∈ jobCalls history) :
    ∃ req fx time, .did id req fx time ∈ history ∧ jobsOf fx ≠ [] := by
  obtain ⟨e, there, is⟩ := List.mem_filterMap.mp mem
  obtain ⟨req, fx, time, rfl⟩ := didIs is
  obtain ⟨inside, made⟩ := List.mem_filter.mp there
  exact ⟨req, fx, time, inside, by simpa [madeJob, eventJobs] using made⟩

theorem jobsInFew {history : List Event} (few : ∀ e ∈ history, (eventJobs e).length ≤ 1) :
    (jobsIn history).length ≤ (jobCalls history).length := by
  induction history with
  | nil => exact Nat.le_refl _
  | cons e older ih =>
    have rest := ih (fun e' mem => few e' (List.mem_cons_of_mem _ mem))
    have here := few e List.mem_cons_self
    have split : jobsIn (e :: older) = jobsIn older ++ eventJobs e := by simp [jobsIn]
    rw [split, List.length_append, jobCalls]
    cases e with
    | did id req fx time =>
      by_cases none : eventJobs (.did id req fx time) = []
      · rw [List.filter_cons_of_neg (by simp [madeJob, none]), none]
        exact rest
      · rw [List.filter_cons_of_pos (by simp [madeJob, none])]
        exact Nat.add_le_add rest here
    | _ => exact rest

def askedUpstream : List (Action FrameCache.node) :=
  evictedBetween ++
    [.proxy (.take 0), .proxy (.count 0), .proxy (.claim 0 .none 0), .proxy (.look 0),
      .proxy (.ask 0 ⟨true, true, true, []⟩), .server .look,
      .server (.read (.datagram (ask flagProxied) (some listener))), .server .send]

structure Whole (lib : FrameLib) (node : Node) (workers : Nat) (s : State β) : Prop where
  answering : Answering lib node s
  served : ServerRun.Sound workers s.server
  paid : ProxyRun.Paid node.client s.proxy
  offered : Offered s

section Reached
variable {rt : Runtime β} {lib : FrameLib} {node : Node} {s s' : State β} {workers : Nat} {limiter : Limiter β}
  {acts : List (Action node)}

theorem initWhole (lib : FrameLib) (node : Node) (workers : Nat) (limiter : Limiter β) :
    Whole lib node workers (init node workers limiter) where
  answering := initAnswering lib node workers limiter
  served := ServerRun.initSound ..
  paid := ⟨ProxyRun.initSound .., Nat.le_refl _⟩
  offered := ⟨rfl, List.Sublist.refl _⟩

theorem stepWhole {a : Action node} (h : Whole lib node workers s) (stepped : step rt lib node s a = some s') :
    Whole lib node workers s' := by
  obtain ⟨serverActs, served⟩ := serverMoves stepped
  obtain ⟨proxyActs, proxied⟩ := proxyMoves stepped
  exact {
    answering := stepAnswering h.answering stepped
    served := invariant (fun _ _ _ sound moved => ServerRun.stepSound sound moved) h.served served
    paid := invariant (fun _ _ _ paid moved => ProxyRun.stepPaid paid moved) h.paid proxied
    offered := stepOffered h.offered stepped }

theorem wholeReached (ran : run (step rt lib node) (init node workers limiter) acts = some s) :
    Whole lib node workers s :=
  invariant (fun _ _ _ h stepped => stepWhole h stepped) (initWhole lib node workers limiter) ran

theorem Whole.readAt (h : Whole lib node workers s) {id : Nat} {req : Request} {fx : List Effect} {time : Int}
    (did : .did id req fx time ∈ s.server.calls.history) : s.server.read[id]? = some req :=
  h.served.readAt (h.answering.told.ended id req fx time did)

theorem Whole.jobs (h : Whole lib node workers s) {job : Proxy.Job} (mem : job ∈ jobsIn s.server.calls.history) :
    ∃ id req, s.server.read[id]? = some req ∧ req.nack.proxied = false ∧
      Saw s.server.calls.history (s.seen id) id req none ∧ job = jobFor req := by
  obtain ⟨id, req, fx, time, did, mine⟩ := memJobsIn mem
  rcases (h.answering.told.did id req fx time did).jobs with none | ⟨one, plain, absent⟩
  · rw [none] at mine
    cases mine
  · rw [one] at mine
    exact ⟨id, req, h.readAt did, plain, absent, List.mem_singleton.mp mine⟩

theorem Whole.jobsFew (h : Whole lib node workers s) :
    (jobsIn s.server.calls.history).length ≤ s.server.read.countP unproxied := by
  have told := h.answering.told
  have few : ∀ e ∈ s.server.calls.history, (eventJobs e).length ≤ 1 := by
    intro e mem
    cases e with
    | did id req fx time =>
      change (jobsOf fx).length ≤ 1
      rcases (told.did id req fx time mem).jobs with none | ⟨one, -⟩
      · rw [none]
        exact Nat.zero_le 1
      · rw [one]
        exact Nat.le_refl 1
    | _ => exact Nat.zero_le 1
  have once : (jobCalls s.server.calls.history).Nodup :=
    told.once.sublist (List.filter_sublist.filterMap didOf)
  have within : jobCalls s.server.calls.history ⊆ s.server.read.findIdxs unproxied := by
    intro id mem
    obtain ⟨req, fx, time, there, made⟩ := memJobCalls mem
    rcases (told.did id req fx time there).jobs with none | ⟨-, plain, -⟩
    · exact absurd none made
    · obtain ⟨low, here⟩ := List.getElem?_eq_some_iff.mp (h.readAt there)
      refine List.mem_findIdxs_iff_exists_getElem_pos.mpr ⟨low, ?_⟩
      rw [here, unproxied, plain]
      rfl
  have bound := (List.subperm_of_subset once within).length_le
  rw [List.length_findIdxs] at bound
  exact (jobsInFew few).trans bound

theorem Whole.upstream (h : Whole lib node workers s) :
    s.proxy.asked.length ≤ ProxyRun.endpoints node.client * s.server.read.countP unproxied := by
  have taken : s.proxy.pool.taken.length ≤ s.server.read.countP unproxied := by
    have sent := h.paid.sound.offered
    have few := h.jobsFew
    rw [h.paid.sound.pool.fifo, List.length_append] at sent
    rw [← h.offered.all] at few
    omega
  have few := h.paid.few
  calc s.proxy.asked.length
    _ ≤ ProxyRun.endpoints node.client * s.proxy.pool.taken.length := by omega
    _ ≤ ProxyRun.endpoints node.client * s.server.read.countP unproxied := Nat.mul_le_mul_left _ taken

/-- The jobs the server offers the proxy are those of its answers, one by one; those the
proxy's queue has room for come in that order; and each is the gap and the requester of a
datagram read that was not proxied itself and whose lookup found nothing. -/
theorem jobsFromMisses (ran : run (step rt lib node) (init node workers limiter) acts = some s) :
    s.proxy.offered = (jobsIn s.server.calls.history).length ∧
    s.proxy.pool.sent.Sublist (jobsIn s.server.calls.history) ∧
    ∀ job ∈ jobsIn s.server.calls.history, ∃ id req, s.server.read[id]? = some req ∧
      req.nack.proxied = false ∧ Saw s.server.calls.history (s.seen id) id req none ∧ job = jobFor req := by
  have h := wholeReached ran
  exact ⟨h.offered.all, h.offered.some, fun job mem => h.jobs mem⟩

theorem jobsFromMissesEvicted : ∃ s,
    run (step Runtime.plenty FrameLib.plain FrameCache.node) (init FrameCache.node 2 warm.limiter)
      evictedBetween = some s ∧
    s.proxy.pool.sent.length = 1 ∧
    ∀ job ∈ jobsIn s.server.calls.history, ∃ id req, s.server.read[id]? = some req ∧
      req.nack.proxied = false ∧ Saw s.server.calls.history (s.seen id) id req none ∧ job = jobFor req := by
  have computed : (run (step Runtime.plenty FrameLib.plain FrameCache.node)
      (init FrameCache.node 2 warm.limiter) evictedBetween).map (fun s => s.proxy.pool.sent.length) =
        some 1 := by
    decide +kernel
  obtain ⟨s, ran, one⟩ := Option.map_eq_some_iff.mp computed
  exact ⟨s, ran, one, (jobsFromMisses ran).2.2⟩

/-- Over every run of the endpoint, the NACKs it has sent upstream are at most MaxEndpoints
for each datagram it has read that was not proxied itself: proxied NACKs, forged or real,
however often they come, cause no traffic upstream. -/
theorem upstreamPaidFor (ran : run (step rt lib node) (init node workers limiter) acts = some s) :
    s.proxy.offered ≤ s.server.read.countP unproxied ∧
    s.proxy.asked.length ≤ ProxyRun.endpoints node.client * s.server.read.countP unproxied := by
  have h := wholeReached ran
  exact ⟨h.offered.all ▸ h.jobsFew, h.upstream⟩

theorem upstreamPaidForProxied : ∃ s,
    run (step Runtime.plenty FrameLib.plain FrameCache.node) (init FrameCache.node 2 warm.limiter)
      askedUpstream = some s ∧
    s.proxy.asked.length = 1 ∧ s.server.read.length = 3 ∧ s.server.read.countP unproxied = 2 ∧
    s.proxy.asked.length ≤ 1 * s.server.read.countP unproxied := by
  have computed : (run (step Runtime.plenty FrameLib.plain FrameCache.node)
      (init FrameCache.node 2 warm.limiter) askedUpstream).map
      (fun s => (s.proxy.asked.length, s.server.read.length, s.server.read.countP unproxied)) =
        some (1, 3, 2) := by
    decide +kernel
  obtain ⟨s, ran, seen⟩ := Option.map_eq_some_iff.mp computed
  obtain ⟨asked, rest⟩ := Prod.ext_iff.mp seen
  obtain ⟨read, plain⟩ := Prod.ext_iff.mp rest
  exact ⟨s, ran, asked, read, plain, (upstreamPaidFor ran).2⟩

end Reached

end RetryEndpoint.Endpoint
