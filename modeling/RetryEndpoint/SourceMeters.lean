import RetryEndpoint.ServerRun
import RetryEndpoint.TokenBuckets

/-! What the two token-bucket tiers do to a source, over every run of Server.Run: the IP
tier, asked for each datagram, and the group tier, asked for each hit. The buckets lie in
one map under one lock and every worker asks them, yet a source is answered as if it were
alone, and what it gets through in an interval is bounded by its own bucket. -/
namespace RetryEndpoint.SourceMeters
open BigEndian Wire KeyedMap RateLimit NackServer TokenBuckets
open ServerRun (Action begins)
open NackWorkers (Request Phase)

variable {β : Type}

section Buckets
variable {κ : Type} [DecidableEq κ]

def meterOf (rt : Runtime β) (t : TokenBucketLimiter κ β) (k : κ) : β :=
  (t.limit.lookup k).getD (rt.newLimiter t.r t.burst)

theorem meterNew (rt : Runtime β) (r : Rat) (burst : Int) (k : κ) :
    meterOf rt (newTokenBucketLimiter r burst) k = rt.newLimiter r burst := by
  simp [meterOf, newTokenBucketLimiter]

theorem meterAllow (rt : Runtime β) (t : TokenBucketLimiter κ β) (k : κ) (now : Int) :
    (t.allow rt k now).1 = (rt.allow (meterOf rt t k) now).1 ∧
    meterOf rt (t.allow rt k now).2 = Function.update (meterOf rt t) k (rt.allow (meterOf rt t k) now).2 := by
  refine ⟨rfl, funext fun k' => ?_⟩
  by_cases same : k' = k
  · subst k'
    simp [meterOf, TokenBucketLimiter.allow]
  · simp [meterOf, TokenBucketLimiter.allow, AList.lookup_insert_ne same, Function.update_of_ne same]

end Buckets

def wentOn (s : NackWorkers.State β) (id : Nat) : Bool :=
  match s.calls id with
  | none | some (_, .done) => false
  | some _ => true

theorem wentMoved {s : NackWorkers.State β} {id : Nat} {req : Request} {phase : Phase}
    {events : List NackWorkers.Event} : wentOn (s.move id req phase events) id = decide (phase ≠ .done) := by
  simp only [wentOn, NackWorkers.State.move, Function.update_self]
  cases phase <;> rfl

section Taps
variable (rt : Runtime β) (lib : FrameLib) (server : Server)

def ipTap : Tap (NackWorkers.State β) (NackWorkers.Action server) IPText β where
  meter s := meterOf rt s.limiter.ipLimiter
  clock s := s.now
  asks s
    | .ip id => (s.calls id).map fun call => ipString (sourceIP call.1.src)
    | _ => none
  told _
    | .ip id, s' => wentOn s' id
    | _, _ => false

/- A server without an engine charges nobody. -/
def groupTap : Tap (NackWorkers.State β) (NackWorkers.Action server) GroupKey β where
  meter s := meterOf rt s.limiter.groupLimiter
  clock s := s.now
  asks s
    | .group id _ =>
      match s.calls id, server.shardEngine with
      | some (req, .group raw), some engine =>
        some ⟨ipKey (sourceIP req.src), server.groupIdx lib engine raw (frameTxID raw)⟩
      | _, _ => none
    | _ => none
  told _
    | .group id _, s' => wentOn s' id
    | _, _ => false

def inRun {κ : Type} (tap : Tap (NackWorkers.State β) (NackWorkers.Action server) κ β) :
    Tap (ServerRun.State β) (Action server) κ β where
  meter s := tap.meter s.calls
  clock s := tap.clock s.calls
  asks s
    | .call a => tap.asks s.calls a
    | _ => none
  told s
    | .call a, s' => tap.told s.calls a s'.calls
    | _, _ => false

end Taps

section Steps
variable {rt : Runtime β} {lib : FrameLib} {server : Server}

theorem stepForward {s s' : NackWorkers.State β} {a : NackWorkers.Action server}
    (stepped : NackWorkers.step rt lib server s a = some s') : s.now ≤ s'.now := by
  cases NackWorkers.stepTook stepped with
  | tick forward => exact forward
  | _ => exact Int.le_refl _

theorem sequenceKeeps {r r' : RateLimit.Limiter β} {gap : SeqKey} {now : Int} {ok : Bool}
    (tier : NackWorkers.allowSequence rt r gap now = some (ok, r')) :
    r'.ipLimiter = r.ipLimiter ∧ r'.groupLimiter = r.groupLimiter := by
  obtain ⟨⟨ok', seq⟩, -, same⟩ := Option.bind_eq_some_iff.mp tier
  cases Option.some.inj same
  exact ⟨rfl, rfl⟩

theorem chainKeeps {r r' : RateLimit.Limiter β} {ip : Bytes} {hashKey : UInt64} {now : Int} {ok : Bool}
    (tier : r.allowChain rt ip hashKey now = some (ok, r')) :
    r'.ipLimiter = r.ipLimiter ∧ r'.groupLimiter = r.groupLimiter := by
  cases chainTook tier with
  | unstamped | asked => exact ⟨rfl, rfl⟩

theorem chargeKeeps {s : NackWorkers.State β} {req : Request} {raw : Bytes} {env : Env server.retransmit}
    {ok : Bool} {r' : RateLimit.Limiter β} (tier : NackWorkers.charge rt lib server s req raw env = (ok, r')) :
    r'.ipLimiter = s.limiter.ipLimiter := by
  unfold NackWorkers.charge Server.chargeGroup at tier
  split at tier <;> cases tier <;> rfl

theorem ipSound : (ipTap rt server).Sound (NackWorkers.step rt lib server) rt.allow where
  forward _ _ _ stepped := stepForward stepped
  quiet s a s' stepped silent := by
    change meterOf rt s'.limiter.ipLimiter = meterOf rt s.limiter.ipLimiter
    cases NackWorkers.stepTook stepped with
    | ipPassed here | ipDenied here => simp [ipTap, here] at silent
    | seqPassed here tier | seqDenied here tier =>
      exact congrArg (meterOf rt) (sequenceKeeps tier).1
    | chainPassed here tier | chainDenied here tier =>
      exact congrArg (meterOf rt) (chainKeeps tier).1
    | groupPassed here tier | groupDenied here tier =>
      exact congrArg (meterOf rt) (chargeKeeps tier)
    | tick | outside | refused | arrived | failed | missed | hit | sent => rfl
  asked s a s' k stepped asking := by
    cases a with
    | ip id =>
      cases NackWorkers.stepTook stepped with
      | ipPassed here tier | ipDenied here tier =>
        simp only [ipTap, here, Option.map_some, Option.some.injEq] at asking
        subst asking
        obtain ⟨answer, kept⟩ := Prod.ext_iff.mp tier
        obtain ⟨decided, meters⟩ := meterAllow rt s.limiter.ipLimiter (ipString (sourceIP _)) s.now
        refine ⟨?_, ?_⟩
        · change wentOn _ id = _
          rw [wentMoved]
          exact answer.symm.trans decided
        · change meterOf rt _ = _
          cases kept
          exact meters
    | _ => cases asking

theorem groupSound : (groupTap rt lib server).Sound (NackWorkers.step rt lib server) rt.allow where
  forward _ _ _ stepped := stepForward stepped
  quiet s a s' stepped silent := by
    change meterOf rt s'.limiter.groupLimiter = meterOf rt s.limiter.groupLimiter
    cases NackWorkers.stepTook stepped with
    | ipPassed here tier | ipDenied here tier =>
      cases (Prod.ext_iff.mp tier).2
      rfl
    | seqPassed here tier | seqDenied here tier =>
      exact congrArg (meterOf rt) (sequenceKeeps tier).2
    | chainPassed here tier | chainDenied here tier =>
      exact congrArg (meterOf rt) (chainKeeps tier).2
    | groupPassed here tier | groupDenied here tier =>
      cases engine : server.shardEngine with
      | some engine' => simp [groupTap, here, engine] at silent
      | none =>
        simp only [NackWorkers.charge, Server.chargeGroup, engine] at tier
        cases tier <;> rfl
    | tick | outside | refused | arrived | failed | missed | hit | sent => rfl
  asked s a s' k stepped asking := by
    cases a with
    | group id env =>
      cases engine : server.shardEngine with
      | none =>
        simp only [groupTap, engine] at asking
        split at asking
        · contradiction
        · cases asking
      | some engine' =>
        cases NackWorkers.stepTook stepped with
        | @groupPassed _ req raw _ _ here tier | @groupDenied _ req raw _ _ here tier =>
          simp only [groupTap, here, engine, Option.some.injEq] at asking
          subst asking
          simp only [NackWorkers.charge, Server.chargeGroup, engine] at tier
          obtain ⟨answer, kept⟩ := Prod.ext_iff.mp tier
          obtain ⟨decided, meters⟩ := meterAllow rt s.limiter.groupLimiter
            ⟨ipKey (sourceIP req.src), server.groupIdx lib engine' raw (frameTxID raw)⟩ s.now
          refine ⟨?_, ?_⟩
          · change wentOn _ id = _
            rw [wentMoved]
            exact answer.symm.trans decided
          · change meterOf rt _ = _
            cases kept
            exact meters
    | _ => cases asking

theorem stepMaps {s s' : ServerRun.State β} {a : Action server}
    (stepped : ServerRun.step rt lib server s a = some s') :
    (∃ b, a = .call b ∧ NackWorkers.step rt lib server s.calls b = some s'.calls) ∨
    (∀ b, a ≠ .call b) ∧ (s'.calls = s.calls ∨
      ∃ id req, NackWorkers.step rt lib server s.calls (.arrive id req) = some s'.calls) := by
  by_cases call : ∃ b, a = .call b
  · obtain ⟨b, rfl⟩ := call
    obtain ⟨-, going⟩ := Option.ite_none_left_eq_some.mp stepped
    obtain ⟨calls, moved, same⟩ := Option.bind_eq_some_iff.mp going
    cases Option.some.inj same
    exact .inl ⟨b, rfl, moved⟩
  · refine .inr ⟨fun b same => call ⟨b, same⟩, ?_⟩
    cases ServerRun.stepTook stepped with
    | take idle next fresh begun => exact .inr ⟨_, _, begun⟩
    | call later moved => exact absurd ⟨_, rfl⟩ call
    | _ => exact .inl rfl

theorem inRunSound {κ : Type} [DecidableEq κ]
    {tap : Tap (NackWorkers.State β) (NackWorkers.Action server) κ β}
    (h : tap.Sound (NackWorkers.step rt lib server) rt.allow)
    (arrives : ∀ s id req, tap.asks s (.arrive id req) = none) :
    (inRun server tap).Sound (ServerRun.step rt lib server) rt.allow where
  forward s a s' stepped := by
    rcases stepMaps stepped with ⟨b, rfl, moved⟩ | ⟨-, same | ⟨id, req, moved⟩⟩
    · exact h.forward _ _ _ moved
    · exact le_of_eq (congrArg tap.clock same.symm)
    · exact h.forward _ _ _ moved
  quiet s a s' stepped silent := by
    rcases stepMaps stepped with ⟨b, rfl, moved⟩ | ⟨-, same | ⟨id, req, moved⟩⟩
    · exact h.quiet _ _ _ moved silent
    · exact congrArg tap.meter same
    · exact h.quiet _ _ _ moved (arrives _ id req)
  asked s a s' k stepped asking := by
    rcases stepMaps stepped with ⟨b, rfl, moved⟩ | ⟨other, -⟩
    · exact h.asked _ _ _ k moved asking
    · cases a with
      | call b => exact absurd rfl (other b)
      | _ => cases asking

theorem ipInRun : (inRun server (ipTap rt server)).Sound (ServerRun.step rt lib server) rt.allow :=
  inRunSound ipSound fun _ _ _ => rfl

theorem groupInRun : (inRun server (groupTap rt lib server)).Sound (ServerRun.step rt lib server) rt.allow :=
  inRunSound groupSound fun _ _ _ => rfl

end Steps

def groupRate (cfg : Config) : Rat := if cfg.groupRate ≤ 0 then 200 else cfg.groupRate
def groupBurst (cfg : Config) : Int := if cfg.groupBurst ≤ 0 then 50 else cfg.groupBurst

section Runs
variable (rt : Runtime β) (lib : FrameLib) (server : Server) (s : ServerRun.State β)
  (acts : List (Action server))

def ipAnswers (k : IPText) : List (Int × Bool) :=
  answersTo k ((inRun server (ipTap rt server)).trace (ServerRun.step rt lib server) s acts)

def groupAnswers (k : GroupKey) : List (Int × Bool) :=
  answersTo k ((inRun server (groupTap rt lib server)).trace (ServerRun.step rt lib server) s acts)

end Runs

section Results
variable {rt : Runtime β} {lib : FrameLib} {server : Server} {workers : Nat} {cfg : Config} {b : Cache.Backend}
  {acts : List (Action server)}

theorem ipStart (k : IPText) : (inRun server (ipTap rt server)).meter
    (ServerRun.init workers (RateLimit.new rt cfg) b) k = rt.newLimiter cfg.ipRate cfg.ipBurst :=
  meterNew _ _ _ k

theorem groupStart (k : GroupKey) : (inRun server (groupTap rt lib server)).meter
    (ServerRun.init workers (RateLimit.new rt cfg) b) k = rt.newLimiter (groupRate cfg) (groupBurst cfg) :=
  meterNew _ _ _ k

/-- Whatever the other sources send, in any run of Run: the IP tier answers a source as a
new bucket that nobody else asks would, at the times it is asked for that source; and so does the
group tier each source and group. -/
theorem answeredAlone :
    let start := ServerRun.init workers (RateLimit.new rt cfg) b
    (∀ k, ipAnswers rt lib server start acts k =
      decisions rt.allow (rt.newLimiter cfg.ipRate cfg.ipBurst)
        ((ipAnswers rt lib server start acts k).map Prod.fst)) ∧
    ∀ k, groupAnswers rt lib server start acts k =
      decisions rt.allow (rt.newLimiter (groupRate cfg) (groupBurst cfg))
        ((groupAnswers rt lib server start acts k).map Prod.fst) := by
  intro start
  refine ⟨fun k => ?_, fun k => ?_⟩
  · rw [← ipStart k]
    exact ipInRun.alone k start acts
  · rw [← groupStart k]
    exact groupInRun.alone k start acts

end Results

end RetryEndpoint.SourceMeters
