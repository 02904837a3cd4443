import RetryEndpoint.Proxy
import RetryEndpoint.Runs

/-! Any number of proxy clients over one claim store. A job claims, then asks one
upstream after the other and waits for each, and ends when a frame comes back, when
no upstream is left or when its context is done. Each of these is a step of its own,
so any interleaving of jobs on any instances is a run. Nothing ends a claim but its
lifetime. Whatever else is in the backend changes under it at any time. -/
namespace RetryEndpoint.ClaimFleet
open BigEndian Wire Cache Retransmit Proxy Runs

structure Fleet where
  claims : Store
  inst : Nat → Client
  shared : ∀ i, (inst i).cfg.dedup = some claims
  framesApart : ∀ i k k', (inst i).cfg.cache.key k ≠ claims.key k'
  dedupApart : ∀ i view, (inst i).cfg.retrans.dedup = some view → ∀ k k', view.key k ≠ claims.key k'

structure Task where
  inst : Nat
  job : Job
  deriving DecidableEq, Repr

def Fleet.window (fleet : Fleet) (task : Task) : Int := (fleet.inst task.inst).cfg.dedupWindow

def Fleet.claimKey (fleet : Fleet) (task : Task) : Bytes := (fleet.inst task.inst).cfg.claimKey task.job

inductive Phase where
  | trying (claimed : Int) (next : Nat)
  | waiting (claimed : Int) (next : Nat)
  | done
  deriving DecidableEq, Repr

inductive Outcome where
  | recovered (raw : Bytes) | exhausted | cancelled
  deriving DecidableEq, Repr

inductive Event where
  | granted (id : Nat) (task : Task) (wrote : Bool) (time : Int)
  | skipped (id : Nat) (task : Task) (time : Int)
  | contacted (id : Nat) (task : Task) (claimed : Int) (upstream : String) (time : Int)
  | ended (id : Nat) (task : Task) (outcome : Outcome) (time : Int)
  deriving DecidableEq, Repr

structure State where
  now : Int
  backend : Backend
  jobs : Nat → Option (Task × Phase)
  history : List Event

def init : State := ⟨0, ExpiringStore.empty, fun _ => none, []⟩

def Fleet.view (fleet : Fleet) (b : Backend) : Backend := fun k => b (fleet.claims.key k)

def Fleet.outside (fleet : Fleet) (b other : Backend) : Backend := fun k =>
  if k.take fleet.claims.keyPrefix.length = fleet.claims.keyPrefix then b k else other k

abbrev Envs (fleet : Fleet) := (i : Nat) → Env (fleet.inst i).cfg.retrans

inductive Action (fleet : Fleet) where
  | tick (time : Int)
  | outside (other : Backend)
  | start (id : Nat) (task : Task) (fault : Fault)
  | ask (id : Nat) (env : Envs fleet)
  | hear (id : Nat) (env : Envs fleet)
  | cancel (id : Nat)
  | exhaust (id : Nat)

def State.move (s : State) (id : Nat) (task : Task) (phase : Phase) (events : List Event) : State :=
  { s with jobs := Function.update s.jobs id (some (task, phase)), history := events ++ s.history }

section Step
variable (lib : FrameLib) (fleet : Fleet)

/- Whether a claim made now leaves an entry behind, which the code does not look at
when the backend answers with an error. -/
def writes (s : State) (task : Task) (fault : Fault) : Bool :=
  (ExpiringStore.read (fleet.view s.backend) s.now (fleet.claimKey task)).isNone && fault != .lost

def start (s : State) (id : Nat) (task : Task) (fault : Fault) : State :=
  let wrote := writes fleet s task fault
  let (go, b) := (fleet.inst task.inst).cfg.claim task.job s.backend fault s.now
  let s := { s with backend := b }
  if go then s.move id task (.trying s.now 0) [.granted id task wrote s.now]
  else s.move id task .done [.skipped id task s.now]

def ask (s : State) (id : Nat) (task : Task) (claimed : Int) (next : Nat) (env : Envs fleet) :
    Option State :=
  let c := fleet.inst task.inst
  if next < c.cfg.maxEndpoints.toNat then
    match c.cfg.upstreams[next]? with
    | none => none
    | some upstream =>
      let a := (env task.inst).attempt next
      if a.resolves && a.listens && a.sends then
        some (s.move id task (.waiting claimed next) [.contacted id task claimed upstream s.now])
      else some (s.move id task (.trying claimed (next + 1)) [])
  else none

def hear (s : State) (id : Nat) (task : Task) (claimed : Int) (next : Nat) (env : Envs fleet) : State :=
  let c := fleet.inst task.inst
  match fetchLoop ((env task.inst).attempt next).arrivals with
  | some raw =>
    let (_, b) := c.cfg.deliver lib (env task.inst) task.job raw s.backend
    { s with backend := b }.move id task .done [.ended id task (.recovered raw) s.now]
  | none => s.move id task (.trying claimed (next + 1)) []

def step (s : State) : Action fleet → Option State
  | .tick time => if s.now ≤ time then some { s with now := time } else none
  | .outside other => some { s with backend := fleet.outside s.backend other }
  | .start id task fault => match s.jobs id with
    | some _ => none
    | none => some (start fleet s id task fault)
  | .ask id env => match s.jobs id with
    | some (task, .trying claimed next) => ask fleet s id task claimed next env
    | _ => none
  | .hear id env => match s.jobs id with
    | some (task, .waiting claimed next) => some (hear lib fleet s id task claimed next env)
    | _ => none
  -- The context is looked at before each attempt only.
  | .cancel id => match s.jobs id with
    | some (task, .trying _ _) => some (s.move id task .done [.ended id task .cancelled s.now])
    | _ => none
  | .exhaust id => match s.jobs id with
    | some (task, .trying _ next) =>
      if (fleet.inst task.inst).cfg.maxEndpoints.toNat ≤ next then
        some (s.move id task .done [.ended id task .exhausted s.now])
      else none
    | _ => none

inductive Took (s : State) : Action fleet → State → Prop where
  | tick {time} (forward : s.now ≤ time) : Took s (.tick time) { s with now := time }
  | outside {other} : Took s (.outside other) { s with backend := fleet.outside s.backend other }
  | granted {id task fault b} (fresh : s.jobs id = none)
      (claim : (fleet.inst task.inst).cfg.claim task.job s.backend fault s.now = (true, b)) :
      Took s (.start id task fault) ({ s with backend := b }.move id task (.trying s.now 0)
        [.granted id task (writes fleet s task fault) s.now])
  | skipped {id task fault b} (fresh : s.jobs id = none)
      (claim : (fleet.inst task.inst).cfg.claim task.job s.backend fault s.now = (false, b)) :
      Took s (.start id task fault) ({ s with backend := b }.move id task .done [.skipped id task s.now])
  | contacted {id env task claimed next upstream} (here : s.jobs id = some (task, .trying claimed next)) :
      Took s (.ask id env) (s.move id task (.waiting claimed next)
        [.contacted id task claimed upstream s.now])
  | unreached {id env task claimed next} (here : s.jobs id = some (task, .trying claimed next)) :
      Took s (.ask id env) (s.move id task (.trying claimed (next + 1)) [])
  | recovered {id env task claimed next raw} (here : s.jobs id = some (task, .waiting claimed next)) :
      Took s (.hear id env) ({ s with
        backend := ((fleet.inst task.inst).cfg.deliver lib (env task.inst) task.job raw s.backend).2 }.move
          id task .done [.ended id task (.recovered raw) s.now])
  | missed {id env task claimed next} (here : s.jobs id = some (task, .waiting claimed next)) :
      Took s (.hear id env) (s.move id task (.trying claimed (next + 1)) [])
  | cancelled {id task claimed next} (here : s.jobs id = some (task, .trying claimed next)) :
      Took s (.cancel id) (s.move id task .done [.ended id task .cancelled s.now])
  | exhausted {id task claimed next} (here : s.jobs id = some (task, .trying claimed next)) :
      Took s (.exhaust id) (s.move id task .done [.ended id task .exhausted s.now])

variable {lib fleet}

theorem stepTook {s s' : State} {a : Action fleet} (ok : step lib fleet s a = some s') :
    Took lib fleet s a s' := by
  cases a with
  | tick time =>
    simp only [step] at ok
    split at ok <;> try contradiction
    cases Option.some.inj ok
    exact .tick (by assumption)
  | outside other =>
    cases Option.some.inj ok
    exact .outside
  | start id task fault =>
    simp only [step, start] at ok
    split at ok <;> try contradiction
    rename_i fresh
    split at ok
    · rename_i go
      cases Option.some.inj ok
      exact .granted fresh (Prod.ext go rfl)
    · rename_i stop
      cases Option.some.inj ok
      exact .skipped fresh (Prod.ext (Bool.eq_false_iff.mpr stop) rfl)
  | ask id env =>
    simp only [step, ask] at ok
    split at ok <;> try contradiction
    rename_i task claimed next here
    split at ok <;> try contradiction
    split at ok <;> try contradiction
    split at ok
    · cases Option.some.inj ok
      exact .contacted here
    · cases Option.some.inj ok
      exact .unreached here
  | hear id env =>
    simp only [step, hear] at ok
    split at ok <;> try contradiction
    rename_i task claimed next here
    split at ok
    · cases Option.some.inj ok
      exact .recovered here
    · cases Option.some.inj ok
      exact .missed here
  | cancel id =>
    simp only [step] at ok
    split at ok <;> try contradiction
    rename_i task claimed next here
    cases Option.some.inj ok
    exact .cancelled here
  | exhaust id =>
    simp only [step] at ok
    split at ok <;> try contradiction
    rename_i task claimed next here
    split at ok <;> try contradiction
    cases Option.some.inj ok
    exact .exhausted here

end Step

section View
variable (fleet : Fleet) (b : Backend)

theorem viewRead (now : Int) (k : Bytes) :
    ExpiringStore.read b now (fleet.claims.key k) = ExpiringStore.read (fleet.view b) now k := rfl

theorem viewPut (now : Int) (k v : Bytes) (ttl : Int) :
    fleet.view (ExpiringStore.put b now (fleet.claims.key k) v ttl) =
      ExpiringStore.put (fleet.view b) now k v ttl := by
  funext k'
  by_cases same : k' = k
  · subst k'
    simp only [Fleet.view, ExpiringStore.putSame]
  · have apart : fleet.claims.key k' ≠ fleet.claims.key k := fun eq => same (keyInj eq)
    simp only [Fleet.view, ExpiringStore.putOther _ _ _ _ same, ExpiringStore.putOther _ _ _ _ apart]

theorem viewPutOther {slot : Bytes} (apart : ∀ k, slot ≠ fleet.claims.key k) (now : Int) (v : Bytes)
    (ttl : Int) : fleet.view (ExpiringStore.put b now slot v ttl) = fleet.view b := by
  funext k
  exact ExpiringStore.putOther _ _ _ _ (apart k).symm

theorem viewOutside (other : Backend) : fleet.view (fleet.outside b other) = fleet.view b := by
  funext k
  simp only [Fleet.view, Fleet.outside, Store.key, List.take_left, if_true]

theorem viewStore (i : Nat) (raw : Bytes) (fault : Fault) (now : Int) :
    fleet.view ((fleet.inst i).cfg.store raw b fault now).2 = fleet.view b := by
  unfold Config.store
  split
  · rfl
  · cases fault with
    | lost => rfl
    | none | landed => exact viewPutOther fleet b (fleet.framesApart i _) ..

theorem viewGate (i : Nat) (raw : Bytes) (fault : Fault) (now : Int) :
    fleet.view ((fleet.inst i).cfg.retrans.gate raw b fault now).2 = fleet.view b := by
  unfold Retransmitter.gate
  split
  · rename_i dedup key found _
    have created : fleet.view (ExpiringStore.putNX b now (dedup.key key) claimValue
        (fleet.inst i).cfg.retrans.dedupWindow).2 = fleet.view b := by
      unfold ExpiringStore.putNX
      split
      · rfl
      · exact viewPutOther fleet b (fleet.dedupApart i dedup found key) ..
    cases fault with
    | lost => rfl
    | none | landed => exact created
  · rfl

theorem viewDeliver (lib : FrameLib) (i : Nat) (env : Env (fleet.inst i).cfg.retrans) (j : Job)
    (raw : Bytes) : fleet.view ((fleet.inst i).cfg.deliver lib env j raw b).2 = fleet.view b := by
  have stored := viewStore fleet b i raw env.storeFault env.storeNow
  unfold Config.deliver Config.resend
  dsimp only
  split
  · dsimp only
    unfold Retransmitter.retransmit
    dsimp only
    split <;> exact (viewGate ..).trans stored
  · exact stored

theorem claimIs (task : Task) (fault : Fault) (now : Int) :
    (fleet.inst task.inst).cfg.claim task.job b fault now =
      let nx := ExpiringStore.putNX b now (fleet.claims.key (fleet.claimKey task)) claimValue
        (fleet.window task)
      match fault with
      | .none => nx
      | .lost => (true, b)
      | .landed => (true, nx.2) := by
  simp only [Config.claim, fleet.shared, Store.setNX, Fleet.claimKey, Fleet.window]
  cases fault <;> simp

end View

section Solo
variable (lib : FrameLib) {fleet : Fleet} {id : Nat} {task : Task} {claimed : Int} (env : Envs fleet)

def contactsOf (events : List Event) : List String := events.filterMap (fun
  | .contacted _ _ _ upstream _ => some upstream
  | _ => none)

def asked : Effect → Option String
  | .nack upstream _ => some upstream
  | _ => none

theorem deliverAsksNone (j : Job) (raw : Bytes) (b : Backend) (i : Nat) :
    ((fleet.inst i).cfg.deliver lib (env i) j raw b).1.filterMap asked = [] := by
  apply List.filterMap_eq_nil_iff.mpr
  intro e mem
  cases e with
  | nack upstream msg => exact absurd mem (deliverNoNack _ _ _ _ _ _ upstream msg)
  | store | retransmit | unicast => rfl

theorem attemptRun {k : Nat} {s : State} {upstream : String}
    (here : s.jobs id = some (task, .trying claimed k))
    (turn : k < (fleet.inst task.inst).cfg.maxEndpoints.toNat)
    (found : (fleet.inst task.inst).cfg.upstreams[k]? = some upstream) :
    let out := fetch upstream task.job ((env task.inst).attempt k)
    ∃ acts events, contactsOf events = (out.1.filterMap asked).reverse ∧
      run (step lib fleet) s acts = some (match out.2 with
        | some raw => { s with backend := ((fleet.inst task.inst).cfg.deliver lib (env task.inst) task.job
            raw s.backend).2 }.move id task .done (.ended id task (.recovered raw) s.now :: events)
        | none => s.move id task (.trying claimed (k + 1)) events) := by
  unfold fetch
  cases up : (((env task.inst).attempt k).resolves && ((env task.inst).attempt k).listens &&
    ((env task.inst).attempt k).sends) with
  | false =>
    refine ⟨[.ask id env], [], rfl, ?_⟩
    simp [run, step, here, ask, turn, found, up]
  | true =>
    refine ⟨[.ask id env, .hear id env], [.contacted id task claimed upstream s.now], rfl, ?_⟩
    have sent : step lib fleet s (.ask id env) =
        some (s.move id task (.waiting claimed k) [.contacted id task claimed upstream s.now]) := by
      simp only [step, here, ask, turn, found, up, if_true]
    have there : (s.move id task (.waiting claimed k) [.contacted id task claimed upstream s.now]).jobs id =
        some (task, .waiting claimed k) := Function.update_self ..
    have heard : step lib fleet
        (s.move id task (.waiting claimed k) [.contacted id task claimed upstream s.now]) (.hear id env) =
        some (hear lib fleet (s.move id task (.waiting claimed k)
          [.contacted id task claimed upstream s.now]) id task claimed k env) := by
      simp only [step, there]
    simp only [run, sent, heard, hear, bind, Option.bind_some, if_true]
    cases fetchLoop ((env task.inst).attempt k).arrivals <;>
      simp [State.move, Function.update_idem]

theorem attemptsRun (n k : Nat) (s : State) (here : s.jobs id = some (task, .trying claimed k))
    (left : k + n = (fleet.inst task.inst).cfg.maxEndpoints.toNat) :
    let out := (fleet.inst task.inst).cfg.attempts lib (env task.inst) task.job s.backend k
      (((fleet.inst task.inst).cfg.upstreams.drop k).take n)
    ∃ acts s' events, run (step lib fleet) s acts = some s' ∧ s'.backend = out.2 ∧
      s'.history = events ++ s.history ∧ contactsOf events = (out.1.filterMap asked).reverse := by
  -- An attempt leads back to the state before the next; the first that returns a frame ends it.
  induction n generalizing k s with
  | zero =>
    have last : ¬ k < (fleet.inst task.inst).cfg.maxEndpoints.toNat := by omega
    refine ⟨[.exhaust id], s.move id task .done [.ended id task .exhausted s.now],
      [.ended id task .exhausted s.now], ?_, rfl, rfl, rfl⟩
    simp [run, step, here, Nat.not_lt.mp last]
  | succ n ih =>
    obtain ⟨-, bound⟩ := (fleet.inst task.inst).inRange
    have exists' : k < (fleet.inst task.inst).cfg.upstreams.length := by omega
    have next : ((fleet.inst task.inst).cfg.upstreams.drop k).take (n + 1) =
        (fleet.inst task.inst).cfg.upstreams[k] ::
          ((fleet.inst task.inst).cfg.upstreams.drop (k + 1)).take n := by
      rw [List.drop_eq_getElem_cons exists', List.take_succ_cons]
    have turn : k < (fleet.inst task.inst).cfg.maxEndpoints.toNat := by omega
    rw [next, Config.attempts]
    by_cases cancelled : (env task.inst).cancelled k = true
    · refine ⟨[.cancel id], s.move id task .done [.ended id task .cancelled s.now],
        [.ended id task .cancelled s.now], ?_, ?_, rfl, ?_⟩
      · simp [run, step, here]
      · rw [if_pos cancelled]; rfl
      · rw [if_pos cancelled]; rfl
    rw [if_neg cancelled]
    obtain ⟨acts, events, contacts, ran⟩ :=
      attemptRun lib env here turn (List.getElem?_eq_getElem exists')
    dsimp only
    cases got : (fetch (fleet.inst task.inst).cfg.upstreams[k] task.job ((env task.inst).attempt k)).2 with
    | some raw =>
      rw [got] at ran
      refine ⟨acts, _, _, ran, rfl, rfl, ?_⟩
      rw [List.filterMap_append, deliverAsksNone, List.append_nil]
      exact contacts
    | none =>
      rw [got] at ran
      obtain ⟨acts', s', events', ran', backend, history, contacts'⟩ := ih (k + 1)
        (s.move id task (.trying claimed (k + 1)) events) (Function.update_self ..) (by omega)
      refine ⟨acts ++ acts', s', events' ++ events, runAppend ran ran', backend, ?_, ?_⟩
      · rw [history, List.append_assoc]
        rfl
      · have joined : contactsOf (events' ++ events) = contactsOf events' ++ contactsOf events :=
          List.filterMap_append ..
        rw [joined, contacts, contacts', List.filterMap_append, List.reverse_append]
        rfl

theorem soloRecover (s : State) (fresh : s.jobs id = none) (now : (env task.inst).claimNow = s.now) :
    let out := (fleet.inst task.inst).recover lib task.job (env task.inst) s.backend
    ∃ acts s' events, run (step lib fleet) s acts = some s' ∧ s'.backend = out.2 ∧
      s'.history = events ++ s.history ∧ contactsOf events = (out.1.filterMap asked).reverse := by
  unfold Client.recover
  rw [now]
  have started : run (step lib fleet) s [.start id task (env task.inst).claimFault] =
      some (start fleet s id task (env task.inst).claimFault) := by
    simp [run, step, fresh]
  cases claim : (fleet.inst task.inst).cfg.claim task.job s.backend (env task.inst).claimFault s.now with
  | mk go b =>
    simp only [start, claim] at started
    cases go with
    | false => exact ⟨_, _, [.skipped id task s.now], started, rfl, rfl, rfl⟩
    | true =>
      obtain ⟨acts, s', events, ran, backend, history, contacts⟩ := attemptsRun lib env
        (fleet.inst task.inst).cfg.maxEndpoints.toNat 0
        ({ s with backend := b }.move id task (.trying s.now 0)
          [.granted id task (writes fleet s task (env task.inst).claimFault) s.now])
        (Function.update_self ..) (by omega)
      refine ⟨_, s', events ++ [.granted id task (writes fleet s task (env task.inst).claimFault) s.now],
        runAppend started ran, backend, ?_, ?_⟩
      · rw [history, List.append_assoc]
        rfl
      · have quiet : contactsOf (events ++ [.granted id task
            (writes fleet s task (env task.inst).claimFault) s.now]) = contactsOf events := by
          simp [contactsOf]
        rw [quiet]
        exact contacts

end Solo

end RetryEndpoint.ClaimFleet
