import RetryEndpoint.NackServer
import RetryEndpoint.Runs

/-! Any number of NACK workers over one limiter and one cache. Each tier is asked
under a lock of its own and reads the clock there, so a call of processNACK is a
sequence of steps, one for each tier, the lookup and the sends, and any other
call may come between two of them. Others write to the backend meanwhile. -/
namespace RetryEndpoint.NackWorkers
open BigEndian Wire Cache Retransmit RateLimit NackServer Runs

structure Request where
  datagram : Bytes
  src : Option UDPAddr
  deriving DecidableEq, Repr

def Request.nack (req : Request) : Nack := parseNACK req.datagram

def Request.gap (req : Request) : SeqKey := ⟨req.nack.hashKey, req.nack.startSeq⟩

inductive Phase where
  | ip
  | sequence
  | chain (seqAt : Int)
  | lookup (seqAt : Int) (chainAt : Option Int)
  | group (raw : Bytes)
  | send (raw : Bytes)
  | done
  deriving DecidableEq, Repr

inductive Event where
  | passed (tier : Level) (id : Nat) (req : Request) (time : Int)
  | denied (tier : Level) (id : Nat) (req : Request) (time : Int)
  | looked (id : Nat) (req : Request) (seqAt : Int) (chainAt : Option Int) (time : Int)
  | did (id : Nat) (req : Request) (fx : List Effect) (time : Int)
  deriving DecidableEq, Repr

structure State (β : Type) where
  now : Int
  limiter : RateLimit.Limiter β
  backend : Backend
  calls : Nat → Option (Request × Phase)
  history : List Event

def init {β : Type} (limiter : RateLimit.Limiter β) (b : Backend) : State β :=
  ⟨0, limiter, b, fun _ => none, []⟩

inductive Action (s : Server) where
  | tick (time : Int)
  | outside (b : Backend)
  | arrive (id : Nat) (req : Request)
  | ip (id : Nat)
  | sequence (id : Nat)
  | chain (id : Nat)
  | look (id : Nat) (fails : Bool)
  | group (id : Nat) (env : Env s.retransmit)
  | send (id : Nat) (env : Env s.retransmit)

variable {β : Type}

def State.move (s : State β) (id : Nat) (req : Request) (phase : Phase) (events : List Event) : State β :=
  { s with calls := Function.update s.calls id (some (req, phase)), history := events ++ s.history }

def allowIP (rt : Runtime β) (r : RateLimit.Limiter β) (srcIP : Bytes) (now : Int) :
    Bool × RateLimit.Limiter β :=
  let (ok, ip) := r.ipLimiter.allow rt (ipString srcIP) now
  (ok, { r with ipLimiter := ip })

def allowSequence (rt : Runtime β) (r : RateLimit.Limiter β) (gap : SeqKey) (now : Int) :
    Option (Bool × RateLimit.Limiter β) := do
  let (ok, seq) ← r.sequenceLimiter.allowLocked rt.grow gap now
  some (ok, { r with sequenceLimiter := seq })

/- The chain tier reads no clock for an unstamped flow. -/
def chainTime (req : Request) (now : Int) : Option Int :=
  if req.nack.hashKey = 0 then none else some now

section Step
variable (rt : Runtime β) (lib : FrameLib) (server : Server)

def arrive (s : State β) (id : Nat) (req : Request) : State β :=
  match validateNACK req.datagram with
  | .error _ => s.move id req .done []
  | .ok _ =>
    if req.nack.endSeq ≠ req.nack.startSeq then s.move id req .done [] else s.move id req .ip []

def askIP (s : State β) (id : Nat) (req : Request) : State β :=
  let (ok, limiter) := allowIP rt s.limiter (sourceIP req.src) s.now
  let s := { s with limiter := limiter }
  if ok then s.move id req .sequence [.passed .ip id req s.now]
  else s.move id req .done [.denied .ip id req s.now]

def askSequence (s : State β) (id : Nat) (req : Request) : Option (State β) := do
  let (ok, limiter) ← allowSequence rt s.limiter req.gap s.now
  let s := { s with limiter := limiter }
  if ok then some (s.move id req (.chain s.now) [.passed .sequence id req s.now])
  else
    let fx := server.throttle req.src throttleBucketSequence req.nack.startSeq
    some (s.move id req .done [.did id req fx s.now, .denied .sequence id req s.now])

def askChain (s : State β) (id : Nat) (req : Request) (seqAt : Int) : Option (State β) := do
  let (ok, limiter) ← s.limiter.allowChain rt (sourceIP req.src) req.nack.hashKey s.now
  let s := { s with limiter := limiter }
  if ok then
    some (s.move id req (.lookup seqAt (chainTime req s.now)) [.passed .chain id req s.now])
  else
    let fx := server.throttle req.src throttleBucketChain req.nack.startSeq
    some (s.move id req .done [.did id req fx s.now, .denied .chain id req s.now])

def look (s : State β) (id : Nat) (req : Request) (seqAt : Int) (chainAt : Option Int)
    (fails : Bool) : State β :=
  let looked := .looked id req seqAt chainAt s.now
  match server.cache.retrieve s.backend fails s.now (flowKey req.nack.hashKey req.nack.startSeq) with
  | .error _ => s.move id req .done [looked]
  | .ok none => s.move id req .done [.did id req (server.missed req.nack req.src) s.now, looked]
  | .ok (some raw) => s.move id req (.group raw) [looked]

def charge (s : State β) (req : Request) (raw : Bytes) (env : Env server.retransmit) :
    Bool × RateLimit.Limiter β :=
  server.chargeGroup rt lib { env with groupNow := s.now } req.src raw s.limiter

def dispatched (s : State β) (req : Request) (raw : Bytes) (env : Env server.retransmit) :
    List Effect × Backend :=
  server.dispatch lib { env with dedupNow := s.now } req.nack req.src raw s.backend

def askGroup (s : State β) (id : Nat) (req : Request) (raw : Bytes) (env : Env server.retransmit) :
    State β :=
  let (ok, limiter) := charge rt lib server s req raw env
  let s := { s with limiter := limiter }
  if ok then s.move id req (.send raw) [.passed .group id req s.now]
  else
    let fx := server.throttle req.src throttleBucketGroup req.nack.startSeq
    s.move id req .done [.did id req fx s.now, .denied .group id req s.now]

def send (s : State β) (id : Nat) (req : Request) (raw : Bytes) (env : Env server.retransmit) :
    State β :=
  let (fx, b) := dispatched lib server s req raw env
  { s with backend := b }.move id req .done [.did id req fx s.now]

def step (s : State β) : Action server → Option (State β)
  | .tick time => if s.now ≤ time then some { s with now := time } else none
  | .outside b => some { s with backend := b }
  | .arrive id req => if s.calls id = none then some (arrive s id req) else none
  | .ip id => match s.calls id with
    | some (req, .ip) => some (askIP rt s id req)
    | _ => none
  | .sequence id => match s.calls id with
    | some (req, .sequence) => askSequence rt server s id req
    | _ => none
  | .chain id => match s.calls id with
    | some (req, .chain seqAt) => askChain rt server s id req seqAt
    | _ => none
  | .look id fails => match s.calls id with
    | some (req, .lookup seqAt chainAt) => some (look server s id req seqAt chainAt fails)
    | _ => none
  | .group id env => match s.calls id with
    | some (req, .group raw) => some (askGroup rt lib server s id req raw env)
    | _ => none
  | .send id env => match s.calls id with
    | some (req, .send raw) => some (send lib server s id req raw env)
    | _ => none

inductive Took (s : State β) : Action server → State β → Prop where
  | tick {time} (forward : s.now ≤ time) : Took s (.tick time) { s with now := time }
  | outside {b} : Took s (.outside b) { s with backend := b }
  | refused {id req} (fresh : s.calls id = none) : Took s (.arrive id req) (s.move id req .done [])
  | arrived {id req} (fresh : s.calls id = none) : Took s (.arrive id req) (s.move id req .ip [])
  | ipPassed {id req limiter} (here : s.calls id = some (req, .ip))
      (tier : allowIP rt s.limiter (sourceIP req.src) s.now = (true, limiter)) :
      Took s (.ip id)
        ({ s with limiter := limiter }.move id req .sequence [.passed .ip id req s.now])
  | ipDenied {id req limiter} (here : s.calls id = some (req, .ip))
      (tier : allowIP rt s.limiter (sourceIP req.src) s.now = (false, limiter)) :
      Took s (.ip id) ({ s with limiter := limiter }.move id req .done [.denied .ip id req s.now])
  | seqPassed {id req limiter} (here : s.calls id = some (req, .sequence))
      (tier : allowSequence rt s.limiter req.gap s.now = some (true, limiter)) :
      Took s (.sequence id) ({ s with limiter := limiter }.move id req (.chain s.now)
        [.passed .sequence id req s.now])
  | seqDenied {id req limiter} (here : s.calls id = some (req, .sequence))
      (tier : allowSequence rt s.limiter req.gap s.now = some (false, limiter)) :
      Took s (.sequence id) ({ s with limiter := limiter }.move id req .done
        [.did id req (server.throttle req.src throttleBucketSequence req.nack.startSeq) s.now,
          .denied .sequence id req s.now])
  | chainPassed {id req seqAt limiter} (here : s.calls id = some (req, .chain seqAt))
      (tier : s.limiter.allowChain rt (sourceIP req.src) req.nack.hashKey s.now = some (true, limiter)) :
      Took s (.chain id) ({ s with limiter := limiter }.move id req
        (.lookup seqAt (chainTime req s.now)) [.passed .chain id req s.now])
  | chainDenied {id req seqAt limiter} (here : s.calls id = some (req, .chain seqAt))
      (tier : s.limiter.allowChain rt (sourceIP req.src) req.nack.hashKey s.now = some (false, limiter)) :
      Took s (.chain id) ({ s with limiter := limiter }.move id req .done
        [.did id req (server.throttle req.src throttleBucketChain req.nack.startSeq) s.now,
          .denied .chain id req s.now])
  | failed {id req seqAt chainAt fails} (here : s.calls id = some (req, .lookup seqAt chainAt))
      (answer : server.cache.retrieve s.backend fails s.now
        (flowKey req.nack.hashKey req.nack.startSeq) = .error ()) :
      Took s (.look id fails) (s.move id req .done [.looked id req seqAt chainAt s.now])
  | missed {id req seqAt chainAt fails} (here : s.calls id = some (req, .lookup seqAt chainAt))
      (answer : server.cache.retrieve s.backend fails s.now
        (flowKey req.nack.hashKey req.nack.startSeq) = .ok none) :
      Took s (.look id fails) (s.move id req .done
        [.did id req (server.missed req.nack req.src) s.now, .looked id req seqAt chainAt s.now])
  | hit {id req seqAt chainAt fails raw} (here : s.calls id = some (req, .lookup seqAt chainAt))
      (answer : server.cache.retrieve s.backend fails s.now
        (flowKey req.nack.hashKey req.nack.startSeq) = .ok (some raw)) :
      Took s (.look id fails) (s.move id req (.group raw) [.looked id req seqAt chainAt s.now])
  | groupPassed {id req raw env limiter} (here : s.calls id = some (req, .group raw))
      (tier : charge rt lib server s req raw env = (true, limiter)) :
      Took s (.group id env) ({ s with limiter := limiter }.move id req (.send raw)
        [.passed .group id req s.now])
  | groupDenied {id req raw env limiter} (here : s.calls id = some (req, .group raw))
      (tier : charge rt lib server s req raw env = (false, limiter)) :
      Took s (.group id env) ({ s with limiter := limiter }.move id req .done
        [.did id req (server.throttle req.src throttleBucketGroup req.nack.startSeq) s.now,
          .denied .group id req s.now])
  | sent {id req raw env fx b} (here : s.calls id = some (req, .send raw))
      (sends : dispatched lib server s req raw env = (fx, b)) :
      Took s (.send id env) ({ s with backend := b }.move id req .done [.did id req fx s.now])

variable {rt lib server}

theorem stepTook {s s' : State β} {a : Action server} (ok : step rt lib server s a = some s') :
    Took rt lib server s a s' := by
  cases a with
  | tick time =>
    simp only [step] at ok
    split at ok <;> try contradiction
    cases Option.some.inj ok
    exact .tick (by assumption)
  | outside b =>
    cases Option.some.inj ok
    exact .outside
  | arrive id req =>
    simp only [step, arrive] at ok
    split at ok <;> try contradiction
    rename_i fresh
    split at ok
    · cases Option.some.inj ok
      exact .refused fresh
    · split at ok
      · cases Option.some.inj ok
        exact .refused fresh
      · cases Option.some.inj ok
        exact .arrived fresh
  | ip id =>
    simp only [step, askIP] at ok
    split at ok <;> try contradiction
    rename_i req here
    split at ok
    · rename_i pass
      cases Option.some.inj ok
      exact .ipPassed here (Prod.ext pass rfl)
    · rename_i stop
      cases Option.some.inj ok
      exact .ipDenied here (Prod.ext (Bool.eq_false_iff.mpr stop) rfl)
  | sequence id =>
    simp only [step, askSequence, bind] at ok
    split at ok <;> try contradiction
    rename_i req here
    obtain ⟨⟨pass, limiter⟩, tier, ok⟩ := Option.bind_eq_some_iff.mp ok
    cases pass with
    | true => cases Option.some.inj ok; exact .seqPassed here tier
    | false => cases Option.some.inj ok; exact .seqDenied here tier
  | chain id =>
    simp only [step, askChain, bind] at ok
    split at ok <;> try contradiction
    rename_i req seqAt here
    obtain ⟨⟨pass, limiter⟩, tier, ok⟩ := Option.bind_eq_some_iff.mp ok
    cases pass with
    | true => cases Option.some.inj ok; exact .chainPassed here tier
    | false => cases Option.some.inj ok; exact .chainDenied here tier
  | look id fails =>
    simp only [step, look] at ok
    split at ok <;> try contradiction
    rename_i req seqAt chainAt here
    split at ok
    · rename_i answer
      cases Option.some.inj ok
      exact .failed here answer
    · rename_i answer
      cases Option.some.inj ok
      exact .missed here answer
    · rename_i raw answer
      cases Option.some.inj ok
      exact .hit here answer
  | group id env =>
    simp only [step, askGroup] at ok
    split at ok <;> try contradiction
    rename_i req raw here
    split at ok
    · rename_i pass
      cases Option.some.inj ok
      exact .groupPassed here (Prod.ext pass rfl)
    · rename_i stop
      cases Option.some.inj ok
      exact .groupDenied here (Prod.ext (Bool.eq_false_iff.mpr stop) rfl)
  | send id env =>
    simp only [step, send] at ok
    split at ok <;> try contradiction
    rename_i req raw here
    cases Option.some.inj ok
    exact .sent here rfl

end Step

section Solo
variable {rt : Runtime β} {lib : FrameLib} {server : Server} {calls : Nat → Option (Request × Phase)}
  {id : Nat} {req : Request} {now time : Int} {r r' : RateLimit.Limiter β} {b : Backend}
  {history : List Event}

def effectsOf (events : List Event) : List Effect := events.flatMap (fun
  | .did _ _ fx _ => fx
  | _ => [])

theorem allowSplit {srcIP : Bytes} {hashKey startSeq : UInt64} {ipNow seqNow : Int}
    {decision : Option Level}
    (ran : r.allow rt srcIP hashKey startSeq ipNow seqNow = some (decision, r')) :
    (decision = some .ip ∧ allowIP rt r srcIP ipNow = (false, r')) ∨
    ∃ r₁, allowIP rt r srcIP ipNow = (true, r₁) ∧
      allowSequence rt r₁ ⟨hashKey, startSeq⟩ seqNow = some (decision.isNone, r') ∧
      (decision ≠ none → decision = some .sequence) := by
  cases allowTook ran with
  | stopped denies => exact .inl ⟨rfl, by rw [allowIP, denies]⟩
  | @asked _ ok _ passes locked =>
    refine .inr ⟨_, by rw [allowIP, passes], ?_, ?_⟩
    · rw [allowSequence, locked]
      cases ok <;> rfl
    · cases ok <;> simp

def turn (calls : Nat → Option (Request × Phase)) (id : Nat) (req : Request) (now : Int)
    (r : RateLimit.Limiter β) (b : Backend) (phase : Phase) (history : List Event) : State β :=
  ⟨now, r, b, Function.update calls id (some (req, phase)), history⟩

theorem turnIP {ok : Bool} (order : now ≤ time)
    (tier : allowIP rt r (sourceIP req.src) time = (ok, r')) :
    run (step rt lib server) (turn calls id req now r b .ip history) [.tick time, .ip id] =
      some (turn calls id req time r' b (if ok then .sequence else .done)
        ((if ok then .passed .ip id req time else .denied .ip id req time) :: history)) := by
  cases ok <;>
    simp [run, step, turn, order, askIP, tier, State.move, Function.update_idem]

theorem turnSequence {ok : Bool} (order : now ≤ time)
    (tier : allowSequence rt r req.gap time = some (ok, r')) :
    run (step rt lib server) (turn calls id req now r b .sequence history)
        [.tick time, .sequence id] =
      some (turn calls id req time r' b (if ok then .chain time else .done)
        ((if ok then [.passed .sequence id req time] else
          [.did id req (server.throttle req.src throttleBucketSequence req.nack.startSeq) time,
            .denied .sequence id req time]) ++ history)) := by
  cases ok <;>
    simp [run, step, turn, order, askSequence, tier, State.move, Function.update_idem]

theorem turnChain {ok : Bool} {seqAt : Int} (order : now ≤ time)
    (tier : r.allowChain rt (sourceIP req.src) req.nack.hashKey time = some (ok, r')) :
    run (step rt lib server) (turn calls id req now r b (.chain seqAt) history)
        [.tick time, .chain id] =
      some (turn calls id req time r' b (if ok then .lookup seqAt (chainTime req time) else .done)
        ((if ok then [.passed .chain id req time] else
          [.did id req (server.throttle req.src throttleBucketChain req.nack.startSeq) time,
            .denied .chain id req time]) ++ history)) := by
  cases ok <;>
    simp [run, step, turn, order, askChain, tier, State.move, Function.update_idem]

theorem turnLook {seqAt : Int} {chainAt : Option Int} {fails : Bool}
    {answer : Except Unit (Option Bytes)} (order : now ≤ time)
    (looked : server.cache.retrieve b fails time (flowKey req.nack.hashKey req.nack.startSeq) =
      answer) :
    run (step rt lib server) (turn calls id req now r b (.lookup seqAt chainAt) history)
        [.tick time, .look id fails] =
      some (match answer with
        | .error _ => turn calls id req time r b .done (.looked id req seqAt chainAt time :: history)
        | .ok none => turn calls id req time r b .done
            (.did id req (server.missed req.nack req.src) time ::
              .looked id req seqAt chainAt time :: history)
        | .ok (some raw) => turn calls id req time r b (.group raw)
            (.looked id req seqAt chainAt time :: history)) := by
  rcases answer with _ | _ | raw <;>
    simp [run, step, turn, order, look, looked, State.move, Function.update_idem]

theorem turnGroup {ok : Bool} {raw : Bytes} {env : Env server.retransmit} (order : now ≤ env.groupNow)
    (tier : server.chargeGroup rt lib env req.src raw r = (ok, r')) :
    run (step rt lib server) (turn calls id req now r b (.group raw) history)
        [.tick env.groupNow, .group id env] =
      some (turn calls id req env.groupNow r' b (if ok then .send raw else .done)
        ((if ok then [.passed .group id req env.groupNow] else
          [.did id req (server.throttle req.src throttleBucketGroup req.nack.startSeq) env.groupNow,
            .denied .group id req env.groupNow]) ++ history)) := by
  cases ok <;>
    simp [run, step, turn, order, askGroup, charge, tier, State.move, Function.update_idem]

theorem turnSend {raw : Bytes} {env : Env server.retransmit} (order : now ≤ env.dedupNow) :
    let out := server.dispatch lib env req.nack req.src raw b
    run (step rt lib server) (turn calls id req now r b (.send raw) history)
        [.tick env.dedupNow, .send id env] =
      some (turn calls id req env.dedupNow r out.2 .done
        (.did id req out.1 env.dedupNow :: history)) := by
  simp [run, step, turn, order, send, dispatched, State.move, Function.update_idem]

structure InOrder (now : Int) (env : Env server.retransmit) : Prop where
  ip : now ≤ env.ipNow
  sequence : env.ipNow ≤ env.seqNow
  chain : env.seqNow ≤ env.chainNow
  cache : env.chainNow ≤ env.cacheNow
  group : env.cacheNow ≤ env.groupNow
  dedup : env.groupNow ≤ env.dedupNow

theorem turnTiers {env : Env server.retransmit} (clocks : InOrder now env)
    (tiers : r.allow rt (sourceIP req.src) req.nack.hashKey req.nack.startSeq env.ipNow env.seqNow =
      some (none, r')) :
    ∃ acts, run (step rt lib server) (turn calls id req now r b .ip history) acts =
      some (turn calls id req env.seqNow r' b (.chain env.seqNow)
        (.passed .sequence id req env.seqNow :: .passed .ip id req env.ipNow :: history)) := by
  rcases allowSplit tiers with ⟨never, -⟩ | ⟨r₁, ip, sequence, -⟩
  · cases never
  · have first : run (step rt lib server) (turn calls id req now r b .ip history) _ = _ :=
      turnIP clocks.ip ip
    exact ⟨_, runAppend first (turnSequence clocks.sequence sequence)⟩

theorem turnAdmitted {env : Env server.retransmit} (clocks : InOrder now env)
    (admitted : Admitted rt env req.datagram req.src ⟨r, b⟩ r') :
    ∃ acts events, run (step rt lib server) (turn calls id req now r b .ip history) acts =
        some (turn calls id req env.chainNow r' b
          (.lookup env.seqNow (chainTime req env.chainNow)) (events ++ history)) ∧
      effectsOf events = [] := by
  obtain ⟨-, -, between, tiers, chain⟩ := admitted
  obtain ⟨acts, passed⟩ := turnTiers clocks tiers
  exact ⟨_, [.passed .chain id req env.chainNow, .passed .sequence id req env.seqNow,
    .passed .ip id req env.ipNow], runAppend passed (turnChain clocks.chain chain), rfl⟩

theorem turnServed {env : Env server.retransmit} {raw : Bytes} {seqAt : Int} {chainAt : Option Int}
    {last : RateLimit.Limiter β} {ok : Bool} (clocks : InOrder now env)
    (hit : server.cache.retrieve b env.cacheFails env.cacheNow
      (flowKey req.nack.hashKey req.nack.startSeq) = .ok (some raw))
    (group : server.chargeGroup rt lib env req.src raw r = (ok, last)) :
    ∃ acts events time, run (step rt lib server)
        (turn calls id req env.chainNow r b (.lookup seqAt chainAt) history) acts =
      some (turn calls id req time last
        (if ok then (server.dispatch lib env req.nack req.src raw b).2 else b) .done
        (events ++ history)) ∧
      effectsOf events = if ok then (server.dispatch lib env req.nack req.src raw b).1
        else server.throttle req.src throttleBucketGroup req.nack.startSeq := by
  have looked : run (step rt lib server)
      (turn calls id req env.chainNow r b (.lookup seqAt chainAt) history) _ = _ :=
    turnLook clocks.cache hit
  have charged : run (step rt lib server) (turn calls id req env.cacheNow r b (.group raw)
      (.looked id req seqAt chainAt env.cacheNow :: history)) _ = _ := turnGroup clocks.group group
  cases ok with
  | false =>
    refine ⟨_, [.did id req (server.throttle req.src throttleBucketGroup req.nack.startSeq) env.groupNow,
      .denied .group id req env.groupNow, .looked id req seqAt chainAt env.cacheNow], env.groupNow,
      runAppend looked charged, ?_⟩
    simp [effectsOf]
  | true =>
    have sent : run (step rt lib server) (turn calls id req env.groupNow last b (.send raw)
        (.passed .group id req env.groupNow :: .looked id req seqAt chainAt env.cacheNow :: history)) _ =
        _ := turnSend clocks.dedup
    refine ⟨_, [.did id req (server.dispatch lib env req.nack req.src raw b).1 env.dedupNow,
      .passed .group id req env.groupNow, .looked id req seqAt chainAt env.cacheNow], env.dedupNow,
      runAppend (runAppend looked charged) sent, ?_⟩
    simp [effectsOf]

section Whole
variable {env : Env server.retransmit} {s : State β}

theorem turnArrived (fresh : s.calls id = none) (valid : validateNACK req.datagram = .ok ())
    (single : req.nack.endSeq = req.nack.startSeq) :
    run (step rt lib server) s [.arrive id req] =
      some (turn s.calls id req s.now s.limiter s.backend .ip s.history) := by
  simp [run, step, fresh, arrive, valid, single, turn, State.move]

theorem soloAdmitted (fresh : s.calls id = none) (clocks : InOrder s.now env)
    (admitted : Admitted rt env req.datagram req.src ⟨s.limiter, s.backend⟩ r) :
    ∃ acts events, run (step rt lib server) s acts = some (turn s.calls id req env.chainNow r
        s.backend (.lookup env.seqNow (chainTime req env.chainNow)) (events ++ s.history)) ∧
      effectsOf events = [] := by
  obtain ⟨acts, events, passed, quiet⟩ := turnAdmitted clocks admitted
  exact ⟨_, events, runAppend (turnArrived fresh admitted.valid admitted.single) passed, quiet⟩

theorem soloFound {raw : Bytes} {ok : Bool} (fresh : s.calls id = none) (clocks : InOrder s.now env)
    (admitted : Admitted rt env req.datagram req.src ⟨s.limiter, s.backend⟩ r)
    (hit : server.found env req.datagram ⟨s.limiter, s.backend⟩ = .ok (some raw))
    (group : server.chargeGroup rt lib env req.src raw r = (ok, r')) :
    ∃ acts s' events, run (step rt lib server) s acts = some s' ∧ s'.limiter = r' ∧
      s'.backend = (if ok then (server.dispatch lib env req.nack req.src raw s.backend).2
        else s.backend) ∧
      s'.history = events ++ s.history ∧
      effectsOf events = if ok then (server.dispatch lib env req.nack req.src raw s.backend).1
        else server.throttle req.src throttleBucketGroup req.nack.startSeq := by
  obtain ⟨acts, events, passed, quiet⟩ := soloAdmitted fresh clocks admitted
  obtain ⟨acts', events', time, ended, did⟩ := turnServed clocks hit group
  refine ⟨_, _, events' ++ events, runAppend passed ended, rfl, rfl, (List.append_assoc ..).symm, ?_⟩
  simp only [effectsOf, List.flatMap_append] at did quiet ⊢
  rw [did, quiet, List.append_nil]

theorem soloNack {fx : List Effect} {st : NackServer.State β} (fresh : s.calls id = none)
    (clocks : InOrder s.now env)
    (ran : server.processNACK rt lib env req.datagram req.src ⟨s.limiter, s.backend⟩ = some (fx, st)) :
    ∃ acts s' events, run (step rt lib server) s acts = some s' ∧ s'.limiter = st.limiter ∧
      s'.backend = st.backend ∧ s'.history = events ++ s.history ∧ effectsOf events = fx := by
  have refused : arrive s id req = s.move id req .done [] →
      run (step rt lib server) s [.arrive id req] = some (s.move id req .done []) := by
    intro same
    simp [run, step, fresh, same]
  cases processed ran with
  | malformed bad =>
    refine ⟨_, _, [], refused ?_, rfl, rfl, rfl, rfl⟩
    simp [arrive, bad]
  | range valid more =>
    refine ⟨_, _, [], refused ?_, rfl, rfl, rfl, rfl⟩
    simp only [arrive, valid]
    exact if_pos more
  | @denied level limiter valid single tier =>
    rcases allowSplit tier with ⟨isIP, ip⟩ | ⟨r₁, ip, sequence, only⟩
    · cases isIP
      have first : run (step rt lib server)
          (turn s.calls id req s.now s.limiter s.backend .ip s.history) _ = _ := turnIP clocks.ip ip
      exact ⟨_, _, [.denied .ip id req env.ipNow], runAppend (turnArrived fresh valid single) first, rfl, rfl, rfl,
        rfl⟩
    · cases only (by simp)
      have first : run (step rt lib server)
          (turn s.calls id req s.now s.limiter s.backend .ip s.history) _ = _ := turnIP clocks.ip ip
      have second : run (step rt lib server) (turn s.calls id req env.ipNow r₁ s.backend .sequence
          (.passed .ip id req env.ipNow :: s.history)) _ = _ := turnSequence clocks.sequence sequence
      refine ⟨_, _, [.did id req (server.throttle req.src throttleBucketSequence req.nack.startSeq)
        env.seqNow, .denied .sequence id req env.seqNow, .passed .ip id req env.ipNow],
        runAppend (runAppend (turnArrived fresh valid single) first) second, rfl, rfl, rfl, ?_⟩
      simp [effectsOf, Request.nack]
  | @chainDenied between limiter valid single tier chain =>
    obtain ⟨acts, passed⟩ := turnTiers clocks tier
    refine ⟨_, _, [.did id req (server.throttle req.src throttleBucketChain req.nack.startSeq)
      env.chainNow, .denied .chain id req env.chainNow, .passed .sequence id req env.seqNow,
      .passed .ip id req env.ipNow],
      runAppend (runAppend (turnArrived fresh valid single) passed) (turnChain clocks.chain chain), rfl, rfl, rfl, ?_⟩
    simp [effectsOf, Request.nack]
  | @cacheError limiter admitted failed =>
    obtain ⟨acts, events, passed, quiet⟩ := soloAdmitted fresh clocks admitted
    have looked : run (step rt lib server) (turn s.calls id req env.chainNow limiter s.backend
        (.lookup env.seqNow (chainTime req env.chainNow)) (events ++ s.history)) _ = _ :=
      turnLook clocks.cache failed
    refine ⟨_, _, .looked id req env.seqNow (chainTime req env.chainNow) env.cacheNow :: events,
      runAppend passed looked, rfl, rfl, rfl, ?_⟩
    simpa [effectsOf] using quiet
  | @miss limiter admitted absent =>
    obtain ⟨acts, events, passed, quiet⟩ := soloAdmitted fresh clocks admitted
    have looked : run (step rt lib server) (turn s.calls id req env.chainNow limiter s.backend
        (.lookup env.seqNow (chainTime req env.chainNow)) (events ++ s.history)) _ = _ :=
      turnLook clocks.cache absent
    refine ⟨_, _, .did id req (server.missed req.nack req.src) env.cacheNow ::
      .looked id req env.seqNow (chainTime req env.chainNow) env.cacheNow :: events,
      runAppend passed looked, rfl, rfl, rfl, ?_⟩
    simpa [effectsOf, Request.nack] using quiet
  | groupDenied admitted hit group => exact soloFound fresh clocks admitted hit group
  | served admitted hit group => exact soloFound fresh clocks admitted hit group

end Whole

end Solo

end RetryEndpoint.NackWorkers
