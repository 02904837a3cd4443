import RetryEndpoint.Endpoint

/-! What the endpoint's answers say. A call of processNACK spreads over many steps of
the endpoint, but it looks at the cache once, and its answer is decided there: each
answer is the one a single register per flow, last write wins, would have given at that
moment, whatever came before the lookup and between it and the sends. -/
namespace RetryEndpoint.Endpoint
open BigEndian Wire Cache ExpiringStore Retransmit RateLimit NackServer Runs
open FrameCache (Node frames)
open NackWorkers (Request Phase Event)

variable {β : Type}

def flow (req : Request) : Bytes := flowKey req.nack.hashKey req.nack.startSeq

/- The code a throttled answer names its tier by. The IP tier answers nothing. -/
def bucketOf : Level → Option UInt8
  | .ip => none
  | .sequence => some throttleBucketSequence
  | .chain => some throttleBucketChain
  | .group => some throttleBucketGroup

structure Saw (history : List Event) (view : Journal) (id : Nat) (req : Request) (found : Option Bytes) :
    Prop where
  looked : ∃ seqAt chainAt time, .looked id req seqAt chainAt time ∈ history ∧
    read (last view) time (flow req) = found

inductive Answer (lib : FrameLib) (server : Server) (history : List Event) (view : Journal) (id : Nat)
    (req : Request) : List Effect → Prop where
  | throttled {tier bucket time} (named : bucketOf tier = some bucket)
      (denied : .denied tier id req time ∈ history) :
      Answer lib server history view id req (server.throttle req.src bucket req.nack.startSeq)
  | missed (absent : Saw history view id req none) :
      Answer lib server history view id req (server.missed req.nack req.src)
  | sent {raw env b} (found : Saw history view id req (some raw)) :
      Answer lib server history view id req (server.dispatch lib env req.nack req.src raw b).1

def didOf : Event → Option Nat
  | .did id _ _ _ => some id
  | _ => none

def frameOf : Phase → Option Bytes
  | .group raw | .send raw => some raw
  | _ => none

section Facts
variable {lib : FrameLib} {server : Server} {history history' : List Event} {view : Journal} {id : Nat}
  {req : Request}

theorem Saw.later {found : Option Bytes} (h : Saw history view id req found) (kept : history ⊆ history') :
    Saw history' view id req found := by
  obtain ⟨seqAt, chainAt, time, mem, answer⟩ := h.looked
  exact ⟨seqAt, chainAt, time, kept mem, answer⟩

theorem Answer.later {fx : List Effect} (h : Answer lib server history view id req fx)
    (kept : history ⊆ history') : Answer lib server history' view id req fx := by
  cases h with
  | throttled named denied => exact .throttled named (kept denied)
  | missed absent => exact .missed (absent.later kept)
  | sent found => exact .sent (found.later kept)

end Facts

structure Told (lib : FrameLib) (server : Server) (c : NackWorkers.State β) (seen : Nat → Journal)
    (journal : Journal) : Prop where
  ended : ∀ id req fx time, .did id req fx time ∈ c.history → c.calls id = some (req, .done)
  found : ∀ id req phase raw, c.calls id = some (req, phase) → frameOf phase = some raw →
    Saw c.history (seen id) id req (some raw)
  did : ∀ id req fx time, .did id req fx time ∈ c.history → Answer lib server c.history (seen id) id req fx
  within : ∀ id, seen id <:+ journal
  once : (c.history.filterMap didOf).Nodup

theorem didIs {e : Event} {id : Nat} (is : didOf e = some id) : ∃ req fx time, e = .did id req fx time := by
  cases e with
  | did k req fx time => cases is; exact ⟨req, fx, time, rfl⟩
  | _ => cases is

section Keeps
variable {rt : Runtime β} {lib : FrameLib} {server : Server} {c c' : NackWorkers.State β}
  {seen seen' : Nat → Journal} {journal : Journal}

theorem Told.move (h : Told lib server c seen journal) {id : Nat} {req : Request} {phase : Phase}
    {events : List Event} (before : ∀ r p, c.calls id = some (r, p) → r = req ∧ p ≠ .done)
    (calls : c'.calls = Function.update c.calls id (some (req, phase)))
    (history : c'.history = events ++ c.history) (others : ∀ k, k ≠ id → seen' k = seen k)
    (within : seen' id <:+ journal)
    (found : ∀ raw, frameOf phase = some raw → Saw c'.history (seen' id) id req (some raw))
    (mine : ∀ k r fx time, .did k r fx time ∈ events →
      k = id ∧ r = req ∧ phase = .done ∧ Answer lib server c'.history (seen' id) id req fx)
    (one : (events.filterMap didOf).Nodup) :
    Told lib server c' seen' journal := by
  have kept : c.history ⊆ c'.history := history ▸ List.subset_append_right ..
  have apart : ∀ k r fx time, .did k r fx time ∈ c.history → k ≠ id := by
    rintro k r fx time old rfl
    exact (before _ _ (h.ended k r fx time old)).2 rfl
  constructor
  · intro k r fx time mem
    rw [history] at mem
    rw [calls]
    rcases List.mem_append.mp mem with new' | old
    · obtain ⟨rfl, rfl, rfl, -⟩ := mine k r fx time new'
      exact Function.update_self ..
    · rw [Function.update_of_ne (apart k r fx time old)]
      exact h.ended k r fx time old
  · intro k r p raw there holds
    rw [calls] at there
    rcases movedCases there with ⟨rfl, same⟩ | ⟨other, old⟩
    · cases same
      exact found raw holds
    · rw [others k other]
      exact (h.found k r p raw old holds).later kept
  · intro k r fx time mem
    rw [history] at mem
    rcases List.mem_append.mp mem with new' | old
    · obtain ⟨rfl, rfl, -, answer⟩ := mine k r fx time new'
      exact answer
    · rw [others k (apart k r fx time old)]
      exact (h.did k r fx time old).later kept
  · intro k
    by_cases this : k = id
    · rw [this]
      exact within
    · rw [others k this]
      exact h.within k
  · rw [history, List.filterMap_append]
    refine one.append h.once ?_
    intro k new' old
    obtain ⟨e, mem, is⟩ := List.mem_filterMap.mp new'
    obtain ⟨e', mem', is'⟩ := List.mem_filterMap.mp old
    obtain ⟨r, fx, time, rfl⟩ := didIs is
    obtain ⟨r', fx', time', rfl⟩ := didIs is'
    exact apart k r' fx' time' mem' (mine k r fx time mem).1

theorem Mirrors.retrieved {b : Backend} (h : Mirrors b journal) {fails : Bool} {now : Int} {key : Bytes}
    {found : Option Bytes} (answer : frames.retrieve b fails now key = .ok found) :
    read (last journal) now key = found := by
  unfold Store.retrieve at answer
  split at answer <;> try contradiction
  rw [← Except.ok.inj answer]
  simp only [ExpiringStore.read, h key]

theorem callTold {a : NackWorkers.Action server} (h : Told lib server c seen journal)
    (isFrames : server.cache = frames) (mirrors : Mirrors c.backend journal)
    (stepped : NackWorkers.step rt lib server c a = some c') :
    Told lib server c' (sawBy seen journal a) journal := by
  have only : ∀ {id req phase}, c.calls id = some (req, phase) → phase ≠ .done →
      ∀ r p, c.calls id = some (r, p) → r = req ∧ p ≠ .done := by
    intro id req phase here still r p there
    rw [here] at there
    cases Option.some.inj there
    exact ⟨rfl, still⟩
  cases NackWorkers.stepTook stepped with
  | tick | outside => exact ⟨h.ended, h.found, h.did, h.within, h.once⟩
  | refused fresh | arrived fresh =>
    refine h.move ?_ rfl rfl (fun _ _ => rfl) (h.within _) nofun nofun List.nodup_nil
    intro r p there
    rw [fresh] at there
    cases there
  | ipPassed here | ipDenied here | seqPassed here | chainPassed here =>
    exact h.move (only here nofun) rfl rfl (fun _ _ => rfl) (h.within _) nofun (by simp) List.nodup_nil
  | seqDenied here | chainDenied here | groupDenied here =>
    refine h.move (only here nofun) rfl rfl (fun _ _ => rfl) (h.within _) nofun ?_ (List.nodup_singleton _)
    intro k r fx time mem
    obtain ⟨rfl, rfl, rfl, rfl⟩ : k = _ ∧ r = _ ∧ fx = _ ∧ time = _ := by simpa using mem
    exact ⟨rfl, rfl, rfl, .throttled rfl (List.mem_cons_of_mem _ List.mem_cons_self)⟩
  | failed here =>
    refine h.move (only here nofun) rfl rfl (fun k other => Function.update_of_ne other ..) ?_ nofun (by simp) List.nodup_nil
    rw [sawBy, Function.update_self]
  | @missed id req seqAt chainAt fails here answer =>
    rw [isFrames] at answer
    refine h.move (only here nofun) rfl rfl (fun k other => Function.update_of_ne other ..) ?_ nofun ?_ (List.nodup_singleton _)
    · rw [sawBy, Function.update_self]
    · intro k r fx time mem
      obtain ⟨rfl, rfl, rfl, rfl⟩ : k = _ ∧ r = _ ∧ fx = _ ∧ time = _ := by simpa using mem
      refine ⟨rfl, rfl, rfl, .missed ⟨seqAt, chainAt, c.now, List.mem_cons_of_mem _ List.mem_cons_self, ?_⟩⟩
      rw [sawBy, Function.update_self]
      exact mirrors.retrieved answer
  | @hit id req seqAt chainAt fails raw here answer =>
    rw [isFrames] at answer
    refine h.move (only here nofun) rfl rfl (fun k other => Function.update_of_ne other ..) ?_ ?_ (by simp) List.nodup_nil
    · rw [sawBy, Function.update_self]
    · intro raw' holds
      cases Option.some.inj holds
      refine ⟨seqAt, chainAt, c.now, List.mem_cons_self, ?_⟩
      rw [sawBy, Function.update_self]
      exact mirrors.retrieved answer
  | groupPassed here =>
    refine h.move (only here nofun) rfl rfl (fun _ _ => rfl) (h.within _) ?_ (by simp) List.nodup_nil
    intro raw holds
    exact (h.found _ _ _ raw here holds).later (List.subset_cons_self ..)
  | @sent id req raw env fx b here sends =>
    refine h.move (only here nofun) rfl rfl (fun _ _ => rfl) (h.within _) nofun ?_ (List.nodup_singleton _)
    intro k r fx' time mem
    obtain ⟨rfl, rfl, rfl, rfl⟩ : k = _ ∧ r = _ ∧ fx' = _ ∧ time = _ := by simpa using mem
    have effects : fx' = (NackWorkers.dispatched lib server c r raw env).1 := by rw [sends]
    subst effects
    exact ⟨rfl, rfl, rfl, .sent ((h.found _ _ _ raw here rfl).later (List.subset_cons_self ..))⟩

theorem Told.grow (h : Told lib server c seen journal) {journal' : Journal} (calls : c'.calls = c.calls)
    (history : c'.history = c.history) (grown : journal <:+ journal') : Told lib server c' seen journal' := by
  constructor
  · rw [calls, history]; exact h.ended
  · rw [calls, history]; exact h.found
  · rw [history]; exact h.did
  · exact fun id => (h.within id).trans grown
  · rw [history]; exact h.once

end Keeps

/- Two workers and one frame, asked for twice. It is dropped for room while the first call
is between its lookup and its sends, so the first is served and the second misses. -/
def evictedBetween : List (Action FrameCache.node) :=
  [.datagram (.new false) ⟨cachedFrame, none⟩ .none, .server .look,
    .server (.read (.datagram (ask 0) (some listener))), .server .send, .server (.take 0), .server (.call (.ip 0)),
    .server (.call (.sequence 0)), .server (.call (.chain 0)), .tick 5, .server (.call (.look 0 false)),
    .evict (frames.key (flowKey 7 9)), .server .look,
    .server (.read (.datagram (ask 0) (some listener))), .server .send, .server (.take 1), .server (.call (.ip 1)),
    .server (.call (.sequence 1)), .server (.call (.chain 1)), .server (.call (.look 1 false)),
    .server (.call (.group 0 FrameCache.quiet)), .server (.call (.send 0 FrameCache.quiet))]

section Reached
variable {rt : Runtime β} {lib : FrameLib} {node : Node} {s s' : State β}

structure Answering (lib : FrameLib) (node : Node) (s : State β) : Prop where
  joined : Joined s
  told : Told lib node.server s.server.calls s.seen s.journal

theorem serverTold {a : ServerRun.Action node.server} {server : ServerRun.State β} (h : Answering lib node s)
    (stepped : ServerRun.step rt lib node.server s.server a = some server) :
    Told lib node.server server.calls (lookedUp s a) s.journal := by
  cases a with
  | call a =>
    simp only [ServerRun.step] at stepped
    split at stepped <;> try contradiction
    obtain ⟨calls, moved, same⟩ := Option.bind_eq_some_iff.mp stepped
    cases Option.some.inj same
    exact callTold h.told node.serverFrames h.joined.mirrors moved
  | take i =>
    cases ServerRun.stepTook stepped with
    | take idle next fresh begun => exact callTold h.told node.serverFrames h.joined.mirrors begun
    | leave => exact h.told
  | cancel | look | read | send | giveUp | join | finish | exit =>
    cases ServerRun.stepTook stepped <;> exact h.told

theorem stepAnswering {a : Action node} (h : Answering lib node s) (stepped : step rt lib node s a = some s') :
    Answering lib node s' := by
  refine ⟨stepJoined h.joined stepped, ?_⟩
  have told := h.told
  cases stepTook stepped with
  | server own moved offered => exact serverTold h moved
  | tick | cancel | elsewhere => exact told.grow rfl rfl (List.suffix_refl _)
  | proxy | datagram | evict => exact told.grow rfl rfl (List.suffix_append ..)
  | sibling => exact told.grow rfl rfl (List.suffix_cons ..)

variable {workers : Nat} {limiter : Limiter β} {acts : List (Action node)}

theorem initAnswering (lib : FrameLib) (node : Node) (workers : Nat) (limiter : Limiter β) :
    Answering lib node (init node workers limiter) where
  joined := ⟨rfl, fun _ => rfl⟩
  told := ⟨nofun, nofun, nofun, fun _ => List.suffix_refl _, List.nodup_nil⟩

theorem answeringReached (ran : run (step rt lib node) (init node workers limiter) acts = some s) :
    Answering lib node s :=
  invariant (fun _ _ _ h stepped => stepAnswering h stepped) (initAnswering lib node workers limiter) ran

theorem readReached (ran : run (step rt lib node) (init node workers limiter) acts = some s) {id : Nat}
    {req : Request} {fx : List Effect} {time : Int} (did : .did id req fx time ∈ s.server.calls.history) :
    s.server.read[id]? = some req := by
  obtain ⟨acts', served⟩ := serverReached ran
  exact (ServerRun.soundReached served).readAt ((answeringReached ran).told.ended id req fx time did)

/-- Whatever the reader, the workers, the proxy, the ingress, the siblings and eviction do
between two steps of a call: the frame view holds what was last written to each flow, no
datagram read is answered twice, and each answer is that of the datagram read at its
place: THROTTLED of a tier that denied it, the miss of a lookup that found nothing, or the
sends of the very frame its lookup found, where the lookup is of the last unexpired
write of its flow at that time. -/
theorem everyAnswerTruthful (ran : run (step rt lib node) (init node workers limiter) acts = some s) :
    (∀ key, s.backend (frames.key key) = last s.journal key) ∧
    (s.server.calls.history.filterMap didOf).Nodup ∧
    ∀ id req fx time, .did id req fx time ∈ s.server.calls.history →
      s.server.read[id]? = some req ∧ s.seen id <:+ s.journal ∧
      Answer lib node.server s.server.calls.history (s.seen id) id req fx := by
  have h := answeringReached ran
  refine ⟨h.joined.mirrors, h.told.once, ?_⟩
  intro id req fx time did
  exact ⟨readReached ran did, h.told.within id, h.told.did id req fx time did⟩

theorem everyAnswerTruthfulEvicted : ∃ s,
    run (step Runtime.plenty FrameLib.plain FrameCache.node) (init FrameCache.node 2 warm.limiter)
      evictedBetween = some s ∧
    (s.server.calls.history.filterMap didOf) = [0, 1] ∧ s.proxy.offered = 1 ∧
    ∀ id req fx time, .did id req fx time ∈ s.server.calls.history →
      Answer FrameLib.plain FrameCache.node.server s.server.calls.history (s.seen id) id req fx := by
  have computed : (run (step Runtime.plenty FrameLib.plain FrameCache.node)
      (init FrameCache.node 2 warm.limiter) evictedBetween).map
      (fun s => (s.server.calls.history.filterMap didOf, s.proxy.offered)) = some ([0, 1], 1) := by
    decide +kernel
  obtain ⟨s, ran, seen⟩ := Option.map_eq_some_iff.mp computed
  obtain ⟨answered, offered⟩ := Prod.ext_iff.mp seen
  refine ⟨s, ran, answered, offered, ?_⟩
  intro id req fx time did
  exact ((everyAnswerTruthful ran).2.2 id req fx time did).2.2

end Reached

end RetryEndpoint.Endpoint
