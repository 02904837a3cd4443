import RetryEndpoint.RateBound

/-! When a sequence throttle tells the truth. The hint says that a repair of this
gap was just served, but the tier counts what it let through, before the chain
tier, the lookup, the group tier and the sends: each of them may still end the
call with nothing served, and so may the call that is still under way. -/
namespace RetryEndpoint.ThrottleTruth
open BigEndian Wire Cache Retransmit NackWorkers Admissions RateBound Runs WindowLog
open RateLimit hiding Limiter
open NackServer hiding State

def holds : Effect → Bool
  | .respond _ msg => byteAt msg 6 == msgTypeThrottled && byteAt msg 7 == throttleBucketSequence
  | _ => false

def repairs : Effect → Bool
  | .retransmit _ _ result _ => decide (result = .sent)
  | .unicast _ _ ok => ok
  | _ => false

def underWay : Phase → Bool
  | .chain _ | .lookup _ _ | .group _ | .send _ => true
  | _ => false

def Truthful (gap : SeqKey) (window : Int) (e : Event) (older : List Event) : Prop :=
  ∀ id req fx t, e = .did id req fx t → req.gap = gap → fx.any holds = true →
    ∃ id' req' fx' u, .did id' req' fx' u ∈ older ∧ req'.gap = gap ∧ fx'.any repairs = true ∧
      t - window < u ∧ u ≤ t

section Answers
variable {s : Server} {src : Option UDPAddr} {n : Nack} {raw : Bytes}

theorem throttleHolds {bucket : UInt8} {seqNum : UInt64}
    (said : (s.throttle src bucket seqNum).any holds = true) :
    bucket &&& 0x0F = throttleBucketSequence := by
  unfold Server.throttle at said
  split at said
  · split at said
    · simpa [Server.sendThrottled, holds] using said
    · cases said
  · cases said

theorem throttleQuiet {bucket : UInt8} {seqNum : UInt64} (other : bucket &&& 0x0F ≠ throttleBucketSequence) :
    (s.throttle src bucket seqNum).any holds = false :=
  Bool.eq_false_iff.mpr fun said => other (throttleHolds said)

theorem missedQuiet : (s.missed n src).any holds = false := by
  unfold Server.missed Server.miss
  cases src <;> cases s.suppressMISS <;> cases s.proxy && !n.proxied <;>
    simp [Server.sendResponse, holds, msgTypeMISS, msgTypeThrottled]

theorem ackQuiet {flags : UInt8} : (s.ack n src flags).any holds = false := by
  unfold Server.ack
  split
  · split <;> simp [Server.sendResponse, holds, msgTypeACK, msgTypeThrottled]
  · rfl

theorem unicastQuiet {env : Env s.retransmit} {flags : UInt8} :
    (s.unicastAndAck env n src raw flags).any holds = false := by
  unfold Server.unicastAndAck
  split
  · split
    · simp only [List.any_cons, holds, ackQuiet, Bool.or_false]
    · exact ackQuiet
  · exact ackQuiet

theorem dispatchQuiet {lib : FrameLib} {env : Env s.retransmit} {b : Backend} :
    (s.dispatch lib env n src raw b).1.any holds = false := by
  unfold Server.dispatch
  split
  · dsimp only
    split
    · simp only [List.any_cons, holds, unicastQuiet, Bool.or_false]
    · simp only [List.any_cons, holds, unicastQuiet, Bool.or_false]
    · rfl
  · exact unicastQuiet

end Answers

section Run
variable {β : Type} (rt : Runtime β) (lib : FrameLib) (server : Server) (gap : SeqKey)

/- What a step must meet for the hint to be truthful about this gap: the tier is
asked again only when the calls it has admitted have returned, and each of those
goes on to the end, with a send that works. -/
def prompt (s : State β) : Action server → Bool
  | .sequence id => match s.calls id with
    | some (req, .sequence) => req.gap != gap || (sequenceTier.admissions gap s.history).all
        (fun p => (s.calls p.1).all (·.2 == .done))
    | _ => true
  | .chain id => match s.calls id with
    | some (req, .chain _) => req.gap != gap ||
        (s.limiter.allowChain rt (sourceIP req.src) req.nack.hashKey s.now).all (·.1)
    | _ => true
  | .look id fails => match s.calls id with
    | some (req, .lookup _ _) => req.gap != gap || (server.cache.retrieve s.backend fails s.now
        (flowKey req.nack.hashKey req.nack.startSeq)).toOption.join.isSome
    | _ => true
  | .group id env => match s.calls id with
    | some (req, .group raw) => req.gap != gap || (charge rt lib server s req raw env).1
    | _ => true
  | .send id env => match s.calls id with
    | some (req, .send raw) => req.gap != gap || (dispatched lib server s req raw env).1.any repairs
    | _ => true
  | _ => true

structure Kept (window : Int) (s : State β) : Prop where
  served : ∀ id req t, .passed .sequence id req t ∈ s.history → req.gap = gap →
    (∃ phase, s.calls id = some (req, phase) ∧ underWay phase = true) ∨
    ∃ fx u, .did id req fx u ∈ s.history ∧ fx.any repairs = true ∧ t ≤ u ∧ u ≤ s.now
  past : ∀ id req t, .passed .sequence id req t ∈ s.history → t ≤ s.now
  truthful : Each (Truthful gap window) s.history

variable {rt lib server gap}

theorem initKept {window : Int} {limiter : RateLimit.Limiter β} {b : Backend} :
    Kept gap window (init limiter b) :=
  ⟨fun _ _ _ mem => (nomatch mem), fun _ _ _ mem => (nomatch mem), trivial⟩

variable {window : Int} {s s' : State β} {id : Nat} {req : Request} {before phase : Phase}
  {events : List Event} {limiter : RateLimit.Limiter β} {b : Backend}

theorem Kept.move (h : Kept gap window s) (here : ∀ r p, s.calls id = some (r, p) → r = req ∧ p = before)
    (same : s' = { s with limiter := limiter, backend := b }.move id req phase events)
    (quiet : ∀ id' req' t, .passed .sequence id' req' t ∉ events)
    (ends : req.gap = gap → underWay before = true → underWay phase = true ∨
      ∃ fx, .did id req fx s.now ∈ events ∧ fx.any repairs = true)
    (truth : Each (Truthful gap window) (events ++ s.history)) : Kept gap window s' := by
  subst same
  have old : ∀ {id' req' t}, .passed .sequence id' req' t ∈ events ++ s.history →
      .passed .sequence id' req' t ∈ s.history := by
    intro id' req' t mem
    exact (List.mem_append.mp mem).resolve_left (quiet id' req' t)
  refine ⟨?_, fun id' req' t mem => h.past id' req' t (old mem), truth⟩
  intro id' req' t mem mine
  rcases h.served id' req' t (old mem) mine with ⟨phase', there, busy⟩ | ⟨fx, u, did, repaired, order, past⟩
  · by_cases moved : id' = id
    · subst id'
      obtain ⟨rfl, rfl⟩ := here _ _ there
      rcases ends mine busy with still | ⟨fx, did, repaired⟩
      · exact .inl ⟨phase, Function.update_self .., still⟩
      · exact .inr ⟨fx, s.now, List.mem_append_left _ did, repaired, h.past _ _ _ (old mem), Int.le_refl _⟩
    · refine .inl ⟨phase', ?_, busy⟩
      simp only [State.move, Function.update_of_ne moved, there]
  · exact .inr ⟨fx, u, List.mem_append_right _ did, repaired, order, past⟩

theorem Kept.tick (h : Kept gap window s) {now : Int} (forward : s.now ≤ now) :
    Kept gap window { s with now := now } := by
  refine ⟨?_, fun id req t mem => Int.le_trans (h.past id req t mem) forward, h.truthful⟩
  intro id req t mem mine
  rcases h.served id req t mem mine with busy | ⟨fx, u, did, repaired, order, past⟩
  · exact .inl busy
  · exact .inr ⟨fx, u, did, repaired, order, Int.le_trans past forward⟩

theorem plainEvent {e : Event} {older : List Event} (other : ∀ id req fx t, e ≠ .did id req fx t) :
    Truthful gap window e older :=
  fun _ _ _ _ same => absurd same (other _ _ _ _)

theorem Kept.admit (h : Kept gap window s) (here : s.calls id = some (req, .sequence)) :
    Kept gap window ({ s with limiter := limiter }.move id req (.chain s.now)
      [.passed .sequence id req s.now]) := by
  refine ⟨?_, ?_, plainEvent (by simp), h.truthful⟩
  · intro id' req' t mem mine
    rcases List.mem_cons.mp mem with new | old
    · cases new
      exact .inl ⟨.chain s.now, Function.update_self .., rfl⟩
    · rcases h.served id' req' t old mine with ⟨phase', there, busy⟩ | ⟨fx, u, did, rest⟩
      · -- Admitted calls are past the tier, so this one is another.
        have apart : id' ≠ id := by
          rintro rfl
          rw [here] at there
          cases Option.some.inj there
          cases busy
        exact .inl ⟨phase', by simp only [State.move, Function.update_of_ne apart, there], busy⟩
      · exact .inr ⟨fx, u, List.mem_cons_of_mem _ did, rest⟩
  · intro id' req' t mem
    rcases List.mem_cons.mp mem with new | old
    · cases new
      exact Int.le_refl _
    · exact h.past id' req' t old

theorem quietDid {fx : List Effect} {t : Int} {older : List Event} (quiet : fx.any holds = false) :
    Truthful gap window (.did id req fx t) older := by
  intro _ _ _ _ same _ said
  cases same
  rw [quiet] at said
  cases said

theorem deniedTruth {cfg : Config} (limits : Limits rt cfg s) (h : Kept gap window s)
    (positive : 1 ≤ cfg.sequenceMax) (wide : window = effectiveSequenceWindow cfg)
    (tier : allowSequence rt s.limiter req.gap s.now = some (false, limiter))
    (alone : req.gap = gap → ∀ p ∈ sequenceTier.admissions gap s.history,
      (s.calls p.1).all (·.2 == .done) = true) {fx : List Effect} {e : Event} :
    Truthful gap window (.did id req fx s.now) (e :: s.history) := by
  intro _ _ _ _ same mine _
  cases same
  obtain ⟨⟨_, seq⟩, locked, known⟩ := Option.bind_eq_some_iff.mp tier
  cases Option.some.inj known
  obtain ⟨ok, r, locked', -, -, -, full⟩ :=
    limits.sequence.admits.allow (Int.le_refl s.now) rt.grow req.gap
  rw [locked] at locked'
  cases Option.some.inj locked'
  have crowded := full rfl
  rw [limits.sequence.max, limits.sequence.window, ← wide] at crowded
  have some : 0 < (alive (s.now - window) (sequenceTier.times s.history req.gap)).length := by omega
  obtain ⟨u₀, mem⟩ := List.exists_mem_of_length_pos some
  obtain ⟨counted, late⟩ := List.mem_filter.mp mem
  obtain ⟨p, admission, rfl⟩ := List.mem_map.mp counted
  obtain ⟨req', passed, key⟩ := admissionMember.mp admission
  have gap' : req'.gap = gap := (Option.some.inj key).trans mine
  rcases h.served _ _ _ passed gap' with ⟨phase, there, busy⟩ | ⟨fx', u, did, repaired, order, past⟩
  · have gone := alone mine p (mine ▸ admission)
    rw [there] at gone
    cases eq_of_beq gone
    cases busy
  · refine ⟨_, req', fx', u, List.mem_cons_of_mem _ did, gap', repaired, ?_, past⟩
    have late := of_decide_eq_true late
    omega

theorem stepKept {cfg : Config} {a : Action server} (limits : Limits rt cfg s)
    (h : Kept gap (effectiveSequenceWindow cfg) s) (positive : 1 ≤ cfg.sequenceMax)
    (ok : prompt rt lib server gap s a = true) (stepped : step rt lib server s a = some s') :
    Kept gap (effectiveSequenceWindow cfg) s' := by
  have only : ∀ {id req before}, s.calls id = some (req, before) →
      ∀ r p, s.calls id = some (r, p) → r = req ∧ p = before := by
    intro id req before here r p there
    rw [here] at there
    cases Option.some.inj there
    exact ⟨rfl, rfl⟩
  cases stepTook stepped with
  | tick forward => exact h.tick forward
  | outside => exact ⟨h.served, h.past, h.truthful⟩
  | @refused id req fresh | @arrived id req fresh =>
    have nowhere : ∀ r p, s.calls id = some (r, p) → r = req ∧ p = .ip := by
      intro r p there
      rw [fresh] at there
      cases there
    exact h.move nowhere rfl (by simp) (fun _ => Bool.noConfusion) h.truthful
  | ipPassed here tier | ipDenied here tier =>
    exact h.move (only here) rfl (by simp) (fun _ => Bool.noConfusion)
      ⟨plainEvent (by simp), h.truthful⟩
  | seqPassed here => exact h.admit here
  | @seqDenied id req limiter here tier =>
    have alone : req.gap = gap → ∀ p ∈ sequenceTier.admissions gap s.history,
        (s.calls p.1).all (·.2 == .done) = true := by
      intro mine
      simpa only [prompt, here, mine, bne_self_eq_false, Bool.false_or, List.all_eq_true] using ok
    exact h.move (only here) rfl (by simp) (fun _ => Bool.noConfusion)
      ⟨deniedTruth limits h positive rfl tier alone, plainEvent (by simp), h.truthful⟩
  | chainPassed here tier =>
    exact h.move (only here) rfl (by simp) (fun _ _ => .inl rfl) ⟨plainEvent (by simp), h.truthful⟩
  | chainDenied here tier =>
    refine h.move (only here) rfl (by simp) ?_
      ⟨quietDid (throttleQuiet (by decide)), plainEvent (by simp), h.truthful⟩
    intro mine
    simp [prompt, here, mine, tier] at ok
  | failed here answer =>
    refine h.move (only here) rfl (by simp) ?_ ⟨plainEvent (by simp), h.truthful⟩
    intro mine
    simp [prompt, here, mine, answer, Except.toOption] at ok
  | missed here answer =>
    refine h.move (only here) rfl (by simp) ?_ ⟨quietDid missedQuiet, plainEvent (by simp), h.truthful⟩
    intro mine
    simp [prompt, here, mine, answer, Except.toOption] at ok
  | hit here answer =>
    exact h.move (only here) rfl (by simp) (fun _ _ => .inl rfl) ⟨plainEvent (by simp), h.truthful⟩
  | groupPassed here tier =>
    exact h.move (only here) rfl (by simp) (fun _ _ => .inl rfl) ⟨plainEvent (by simp), h.truthful⟩
  | groupDenied here tier =>
    refine h.move (only here) rfl (by simp) ?_
      ⟨quietDid (throttleQuiet (by decide)), plainEvent (by simp), h.truthful⟩
    intro mine
    simp [prompt, here, mine, tier] at ok
  | @sent id req raw env fx b here sends =>
    have repaired : req.gap = gap → fx.any repairs = true := by
      intro mine
      simpa only [prompt, here, mine, sends, bne_self_eq_false, Bool.false_or] using ok
    have quiet := dispatchQuiet.symm.trans (congrArg (fun out => out.1.any holds) sends)
    exact h.move (only here) rfl (by simp)
      (fun mine _ => .inr ⟨_, List.mem_cons_self, repaired mine⟩) ⟨quietDid quiet.symm, h.truthful⟩

/-- In every run in which the calls for a gap are taken one at a time and each of
them goes on to a send that works, a THROTTLED answer with the sequence bucket
stands for a repair of that gap within the window behind it. -/
theorem throttledAfterRepair {cfg : Config} (positive : 1 ≤ cfg.sequenceMax)
    {acts : List (Action server)}
    (along : Along (step rt lib server) (fun s a => prompt rt lib server gap s a = true)
      (init (RateLimit.new rt cfg) b) acts)
    (ran : run (step rt lib server) (init (RateLimit.new rt cfg) b) acts = some s) (newer older : List Event)
    (fx : List Effect) (t : Int) (split : s.history = newer ++ .did id req fx t :: older)
    (mine : req.gap = gap) (said : fx.any holds = true) :
    ∃ id' req' fx' u, .did id' req' fx' u ∈ older ∧ req'.gap = gap ∧ fx'.any repairs = true ∧
      t - effectiveSequenceWindow cfg < u ∧ u ≤ t := by
  have keeps : ∀ (s : State β) (a : Action server) (s' : State β),
      Limits rt cfg s ∧ Kept gap (effectiveSequenceWindow cfg) s → prompt rt lib server gap s a = true →
      step rt lib server s a = some s' → Limits rt cfg s' ∧ Kept gap (effectiveSequenceWindow cfg) s' :=
    fun _ _ _ h ok stepped => ⟨stepLimits h.1 stepped, stepKept h.1 h.2 positive ok stepped⟩
  have kept := (invariantAlong keeps ⟨initLimits rt cfg b, initKept⟩ along ran).2
  have each := kept.truthful
  rw [split] at each
  exact eachAt each id req fx t rfl mine said

end Run

def gapAsk : Request := ⟨ask 0, some listener⟩

def askTwice : List (Action (endpoint true true)) :=
  [.arrive 0 gapAsk, .ip 0, .sequence 0, .chain 0, .look 0 false, .group 0 (calm true true false),
    .send 0 (calm true true false), .arrive 1 gapAsk, .ip 1, .tick 8, .sequence 1]

def hold : Effect := Server.sendThrottled listener throttleBucketSequence 9

theorem throttledAfterRepairAgain : ∃ s older,
    run (step Runtime.plenty FrameLib.plain (endpoint true true))
      (init (RateLimit.new Runtime.plenty strict) warm.backend) askTwice = some s ∧
    s.history = .did 1 gapAsk [hold] 8 :: older ∧
    ∃ id' req' fx' u, .did id' req' fx' u ∈ older ∧ req'.gap = ⟨7, 9⟩ ∧ fx'.any repairs = true ∧
      8 - minute < u ∧ u ≤ 8 := by
  have history : (run (step Runtime.plenty FrameLib.plain (endpoint true true))
      (init (RateLimit.new Runtime.plenty strict) warm.backend) askTwice).map (·.history.head?) =
      some (some (.did 1 gapAsk [hold] 8)) := by decide
  obtain ⟨s, ran, recorded⟩ := Option.map_eq_some_iff.mp history
  obtain ⟨older, split⟩ := List.head?_eq_some_iff.mp recorded
  have along : check (step Runtime.plenty FrameLib.plain (endpoint true true))
      (prompt Runtime.plenty FrameLib.plain (endpoint true true) ⟨7, 9⟩)
      (init (RateLimit.new Runtime.plenty strict) warm.backend) askTwice = true := by decide
  exact ⟨s, older, ran, split, throttledAfterRepair (by decide) (alongCheck along) ran [] older _ _ split
    (by decide) (by decide)⟩

/- With an empty cache the first call ends in a MISS, the second is told to hold,
and nothing is ever sent. -/
theorem throttledWithoutRepair : ∃ s older,
    run (step Runtime.plenty FrameLib.plain (endpoint true true))
      (init (RateLimit.new Runtime.plenty strict) ExpiringStore.empty)
      [.arrive 0 gapAsk, .ip 0, .sequence 0, .chain 0, .look 0 false, .arrive 1 gapAsk, .ip 1, .tick 8,
        .sequence 1] = some s ∧
    s.history = .did 1 gapAsk [hold] 8 :: older ∧ holds hold = true ∧
    (effectsOf s.history).any repairs = false := by
  have history : (run (step Runtime.plenty FrameLib.plain (endpoint true true))
      (init (RateLimit.new Runtime.plenty strict) ExpiringStore.empty)
      [.arrive 0 gapAsk, .ip 0, .sequence 0, .chain 0, .look 0 false, .arrive 1 gapAsk, .ip 1, .tick 8,
        .sequence 1]).map (fun s => (s.history.head?, (effectsOf s.history).any repairs)) =
      some (some (.did 1 gapAsk [hold] 8), false) := by decide
  obtain ⟨s, ran, recorded⟩ := Option.map_eq_some_iff.mp history
  obtain ⟨first, never⟩ := Prod.ext_iff.mp recorded
  obtain ⟨older, split⟩ := List.head?_eq_some_iff.mp first
  exact ⟨s, older, ran, split, by decide, never⟩

end RetryEndpoint.ThrottleTruth
