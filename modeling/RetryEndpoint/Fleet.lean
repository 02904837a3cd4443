import RetryEndpoint.EndpointTraffic

/-! Any number of endpoints over one shared cache backend. Each is wired as main wires
it, with its own socket, workers, limiter and proxy, and may be cancelled on its own;
what one of them writes the others read. The record of the frame view is the fleet's. -/
namespace RetryEndpoint.Fleet
open BigEndian Wire Cache ExpiringStore Retransmit RateLimit NackServer Runs
open FrameCache (Node frames)
open Endpoint (Answer Whole didOf)

variable {ι β : Type}

abbrev State (ι β : Type) := ι → Endpoint.State β

def init (nodes : ι → Node) (workers : ι → Nat) (limiter : ι → Limiter β) : State ι β := fun i =>
  Endpoint.init (nodes i) (workers i) (limiter i)

inductive Action (nodes : ι → Node) where
  | tick (time : Int)
  | act (i : ι) (a : Endpoint.Action (nodes i))

def follow (s t : Endpoint.State β) : Endpoint.State β := { s.share t.backend with journal := t.journal }

def advance (s : Endpoint.State β) (time : Int) : Endpoint.State β :=
  { s with server := { s.server with calls := { s.server.calls with now := time } } }

def isTick {node : Node} : Endpoint.Action node → Bool
  | .tick _ => true
  | _ => false

section Step
variable [Fintype ι] [DecidableEq ι] (rt : Runtime β) (lib : FrameLib) (nodes : ι → Node)

def step (s : State ι β) : Action nodes → Option (State ι β)
  | .tick time => if ∀ i, (s i).now ≤ time then some (fun i => advance (s i) time) else none
  | .act i a =>
    if isTick a then none
    else do
      let t ← Endpoint.step rt lib (nodes i) (s i) a
      some (fun k => if k = i then t else follow (s k) t)

inductive Took (s : State ι β) : Action nodes → State ι β → Prop where
  | tick {time} (forward : ∀ i, (s i).now ≤ time) : Took s (.tick time) (fun i => advance (s i) time)
  | act {i a t} (moved : Endpoint.step rt lib (nodes i) (s i) a = some t) :
      Took s (.act i a) (fun k => if k = i then t else follow (s k) t)

variable {rt lib nodes}

theorem stepTook {s s' : State ι β} {a : Action nodes} (ok : step rt lib nodes s a = some s') :
    Took rt lib nodes s a s' := by
  cases a with
  | tick time =>
    simp only [step] at ok
    split at ok <;> try contradiction
    cases Option.some.inj ok
    exact .tick (by assumption)
  | act i a =>
    simp only [step] at ok
    split at ok <;> try contradiction
    obtain ⟨t, moved, ok⟩ := Option.bind_eq_some_iff.mp ok
    cases Option.some.inj ok
    exact .act moved

end Step

def askedElsewhere : List (Action (fun _ : Bool => FrameCache.node)) :=
  [.act false (.datagram (.new false) ⟨cachedFrame, none⟩ .none), .act true (.server .look),
    .act true (.server (.read (.datagram (ask 0) (some listener)))), .act true (.server .send),
    .act true (.server (.take 0)), .act true (.server (.call (.ip 0))), .act true (.server (.call (.sequence 0))),
    .act true (.server (.call (.chain 0))), .tick 5, .act true (.server (.call (.look 0 false))),
    .act false .cancel, .act true (.server (.call (.group 0 FrameCache.quiet))),
    .act true (.server (.call (.send 0 FrameCache.quiet)))]

structure Agreed (lib : FrameLib) (nodes : ι → Node) (workers : ι → Nat) (s : State ι β) : Prop where
  one : ∀ i j, (s i).backend = (s j).backend ∧ (s i).journal = (s j).journal
  each : ∀ i, Whole lib (nodes i) (workers i) (s i)

section Keeps
variable {rt : Runtime β} {lib : FrameLib} {nodes : ι → Node} {workers : ι → Nat} {s s' : State ι β}

theorem journalGrows {node : Node} {s s' : Endpoint.State β} {a : Endpoint.Action node}
    (stepped : Endpoint.step rt lib node s a = some s') : s.journal <:+ s'.journal := by
  cases Endpoint.stepTook stepped with
  | tick | cancel | server | elsewhere => exact List.suffix_refl _
  | proxy | datagram | evict => exact List.suffix_append ..
  | sibling => exact List.suffix_cons ..

theorem followWhole {node : Node} {n : Nat} {s t : Endpoint.State β} (h : Whole lib node n s)
    (moved : Endpoint.Joined t) (grown : s.journal <:+ t.journal) : Whole lib node n (follow s t) where
  answering := ⟨⟨rfl, moved.mirrors⟩, h.answering.told.grow rfl rfl grown⟩
  served := { h.served with }
  paid := ⟨{ h.paid.sound with }, h.paid.few⟩
  offered := ⟨h.offered.all, h.offered.some⟩

theorem advanceWhole {node : Node} {n : Nat} {s : Endpoint.State β} (h : Whole lib node n s) (time : Int) :
    Whole lib node n (advance s time) where
  answering := ⟨⟨h.answering.joined.same, h.answering.joined.mirrors⟩,
    h.answering.told.grow rfl rfl (List.suffix_refl _)⟩
  served := { h.served with }
  paid := h.paid
  offered := ⟨h.offered.all, h.offered.some⟩

variable [Fintype ι] [DecidableEq ι]

theorem stepAgreed {a : Action nodes} (h : Agreed lib nodes workers s)
    (stepped : step rt lib nodes s a = some s') : Agreed lib nodes workers s' := by
  cases stepTook stepped with
  | @tick time forward => exact ⟨h.one, fun i => advanceWhole (h.each i) time⟩
  | @act i a t moved =>
    have after : Whole lib (nodes i) (workers i) t := Endpoint.stepWhole (h.each i) moved
    have shared : ∀ k, (if k = i then t else follow (s k) t).backend = t.backend ∧
        (if k = i then t else follow (s k) t).journal = t.journal := by
      intro k
      split <;> exact ⟨rfl, rfl⟩
    refine ⟨?_, ?_⟩
    · intro k l
      exact ⟨(shared k).1.trans (shared l).1.symm, (shared k).2.trans (shared l).2.symm⟩
    · intro k
      split
      · rename_i same
        exact same ▸ after
      · exact followWhole (h.each k) after.answering.joined ((h.one k i).2 ▸ journalGrows moved)

variable {limiter : ι → Limiter β} {acts : List (Action nodes)}

theorem agreedReached (ran : run (step rt lib nodes) (init nodes workers limiter) acts = some s) :
    Agreed lib nodes workers s := by
  refine invariant (fun _ _ _ h stepped => stepAgreed h stepped) ⟨fun _ _ => ⟨rfl, rfl⟩, fun i => ?_⟩ ran
  exact Endpoint.initWhole lib (nodes i) (workers i) (limiter i)

/-- Whatever the instances of a fleet over one shared cache do between them: there is one
record of the frames they stored, the cache holds the last of them for each flow, and each
answer any instance has given is that of a datagram it read itself, by the last unexpired
write of the flow in that record when it looked, whichever instance wrote it. -/
theorem fleetAnswersTruthful (ran : run (step rt lib nodes) (init nodes workers limiter) acts = some s) :
    (∀ i j, (s i).backend = (s j).backend ∧ (s i).journal = (s j).journal) ∧
    (∀ i key, (s i).backend (frames.key key) = last (s i).journal key) ∧
    ∀ i id req fx time, .did id req fx time ∈ (s i).server.calls.history →
      (s i).server.read[id]? = some req ∧ (s i).seen id <:+ (s i).journal ∧
      Answer lib (nodes i).server (s i).server.calls.history ((s i).seen id) id req fx := by
  have h := agreedReached ran
  refine ⟨h.one, fun i => (h.each i).answering.joined.mirrors, ?_⟩
  intro i id req fx time did
  have told := (h.each i).answering.told
  exact ⟨(h.each i).readAt did, told.within id, told.did id req fx time did⟩

theorem fleetAnswersTruthfulPair : ∃ s,
    run (step Runtime.plenty FrameLib.plain (fun _ => FrameCache.node))
      (init (fun _ => FrameCache.node) (fun _ => 1) (fun _ => warm.limiter)) askedElsewhere = some s ∧
    (s true).server.calls.history.filterMap didOf = [0] ∧ (s true).proxy.offered = 0 ∧
    ∀ id req fx time, .did id req fx time ∈ (s true).server.calls.history →
      Answer FrameLib.plain FrameCache.node.server (s true).server.calls.history ((s true).seen id) id req fx := by
  have computed : (run (step Runtime.plenty FrameLib.plain (fun _ => FrameCache.node))
      (init (fun _ => FrameCache.node) (fun _ => 1) (fun _ => warm.limiter)) askedElsewhere).map
      (fun s => ((s true).server.calls.history.filterMap didOf, (s true).proxy.offered)) =
        some ([0], 0) := by
    decide +kernel
  obtain ⟨s, ran, seen⟩ := Option.map_eq_some_iff.mp computed
  obtain ⟨answered, offered⟩ := Prod.ext_iff.mp seen
  refine ⟨s, ran, answered, offered, ?_⟩
  intro id req fx time did
  exact ((fleetAnswersTruthful ran).2.2 true id req fx time did).2.2

end Keeps

end RetryEndpoint.Fleet
