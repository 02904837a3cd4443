import RetryEndpoint.Retransmit
import RetryEndpoint.Runs

/-! Any number of retransmitters over one dedup store. A call takes its claim, is
routed, enters the egress loop under its instance's mutex and leaves it, each as
a step of its own, so any interleaving of calls and any delay between two steps
of one call is a run. Time is the clock of the store and only moves forward. -/
namespace RetryEndpoint.DedupFleet
open BigEndian Wire Cache ExpiringStore Retransmit Runs

inductive Caller where | nackWorker | proxyRecovery deriving DecidableEq, Repr

structure Call where
  inst : Nat
  caller : Caller
  raw : Bytes
  txID : Bytes
  deriving DecidableEq, Repr

structure Fleet where
  dedup : Store
  inst : Nat → Retransmitter
  shared : ∀ i, (inst i).dedup = some dedup

def Fleet.window (fleet : Fleet) (call : Call) : Int := (fleet.inst call.inst).dedupWindow

inductive Phase where
  | routing (claimed : Int)
  | writing (claimed : Int) (rest : List Iface)
  | done
  deriving DecidableEq, Repr

inductive Event where
  | suppressed (id : Nat) (call : Call) (fault : Fault) (time : Int)
  | claimed (id : Nat) (call : Call) (time : Int)
  | entered (id : Nat) (call : Call) (claimed time : Int)
  | returned (id : Nat) (call : Call) (result : Result) (time : Int)
  deriving DecidableEq, Repr

structure State where
  now : Int
  store : Backend
  locked : Nat → Bool
  calls : Nat → Option (Call × Phase)
  history : List Event

def init : State := ⟨0, empty, fun _ => false, fun _ => none, []⟩

inductive Action where
  | tick (time : Int)
  | start (id : Nat) (call : Call) (fault : Fault)
  | route (id : Nat) (order : List Iface)
  | write (id : Nat) (fails : Bool)
  | finish (id : Nat)
  deriving DecidableEq, Repr

def State.put (s : State) (id : Nat) (call : Call) (phase : Phase) (e : Event) : State :=
  { s with calls := Function.update s.calls id (some (call, phase)), history := e :: s.history }

def State.lock (s : State) (inst : Nat) (held : Bool) : State :=
  { s with locked := Function.update s.locked inst held }

def step (lib : FrameLib) (fleet : Fleet) (s : State) : Action → Option State
  | .tick time => if s.now ≤ time then some { s with now := time } else none
  | .start id call fault =>
    match s.calls id with
    | some _ => none
    | none =>
      let (pass, store) := (fleet.inst call.inst).gate call.raw s.store fault s.now
      let s := { s with store := store }
      if pass then some (s.put id call (.routing s.now) (.claimed id call s.now))
      else some (s.put id call .done (.suppressed id call fault s.now))
  | .route id order =>
    match s.calls id with
    | some (call, .routing claimed) =>
      match (fleet.inst call.inst).targetGroup lib call.raw call.txID with
      | .error e => some (s.put id call .done (.returned id call (.failed e) s.now))
      | .ok _ =>
        if order.Perm (fleet.inst call.inst).sockets ∧ s.locked call.inst = false then
          some ((s.lock call.inst true).put id call (.writing claimed order)
            (.entered id call claimed s.now))
        else none
    | _ => none
  | .write id fails =>
    match s.calls id with
    | some (call, .writing claimed (iface :: rest)) =>
      if fails then
        some ((s.lock call.inst false).put id call .done
          (.returned id call (.failed (.write iface)) s.now))
      else some { s with calls := Function.update s.calls id (some (call, .writing claimed rest)) }
    | _ => none
  | .finish id =>
    match s.calls id with
    | some (call, .writing _ []) =>
      some ((s.lock call.inst false).put id call .done (.returned id call .sent s.now))
    | _ => none

inductive Took (lib : FrameLib) (fleet : Fleet) (s : State) : Action → State → Prop where
  | tick {time} (forward : s.now ≤ time) : Took lib fleet s (.tick time) { s with now := time }
  | passed {id call fault store} (fresh : s.calls id = none)
      (gate : (fleet.inst call.inst).gate call.raw s.store fault s.now = (true, store)) :
      Took lib fleet s (.start id call fault)
        ({ s with store := store }.put id call (.routing s.now) (.claimed id call s.now))
  | stopped {id call fault store} (fresh : s.calls id = none)
      (gate : (fleet.inst call.inst).gate call.raw s.store fault s.now = (false, store)) :
      Took lib fleet s (.start id call fault)
        ({ s with store := store }.put id call .done (.suppressed id call fault s.now))
  | unroutable {id order call claimed e} (here : s.calls id = some (call, .routing claimed))
      (group : (fleet.inst call.inst).targetGroup lib call.raw call.txID = .error e) :
      Took lib fleet s (.route id order)
        (s.put id call .done (.returned id call (.failed e) s.now))
  | enter {id order call claimed dst} (here : s.calls id = some (call, .routing claimed))
      (group : (fleet.inst call.inst).targetGroup lib call.raw call.txID = .ok dst)
      (visits : order.Perm (fleet.inst call.inst).sockets) (free : s.locked call.inst = false) :
      Took lib fleet s (.route id order)
        ((s.lock call.inst true).put id call (.writing claimed order)
          (.entered id call claimed s.now))
  | wrote {id call claimed iface rest}
      (here : s.calls id = some (call, .writing claimed (iface :: rest))) :
      Took lib fleet s (.write id false)
        { s with calls := Function.update s.calls id (some (call, .writing claimed rest)) }
  | broke {id call claimed iface rest}
      (here : s.calls id = some (call, .writing claimed (iface :: rest))) :
      Took lib fleet s (.write id true)
        ((s.lock call.inst false).put id call .done
          (.returned id call (.failed (.write iface)) s.now))
  | finished {id call claimed} (here : s.calls id = some (call, .writing claimed [])) :
      Took lib fleet s (.finish id)
        ((s.lock call.inst false).put id call .done (.returned id call .sent s.now))

theorem stepTook {lib : FrameLib} {fleet : Fleet} {s s' : State} {a : Action}
    (ok : step lib fleet s a = some s') : Took lib fleet s a s' := by
  cases a with
  | tick time =>
    simp only [step] at ok
    split at ok <;> try contradiction
    cases Option.some.inj ok
    exact .tick (by assumption)
  | start id call fault =>
    simp only [step] at ok
    split at ok <;> try contradiction
    rename_i fresh
    split at ok
    · rename_i pass
      cases Option.some.inj ok
      exact .passed fresh (Prod.ext pass rfl)
    · rename_i stop
      cases Option.some.inj ok
      exact .stopped fresh (Prod.ext (by simpa using stop) rfl)
  | route id order =>
    simp only [step] at ok
    split at ok <;> try contradiction
    rename_i call claimed here
    split at ok
    · rename_i e group
      cases Option.some.inj ok
      exact .unroutable here group
    · rename_i dst group
      split at ok <;> try contradiction
      rename_i enabled
      cases Option.some.inj ok
      exact .enter here group enabled.1 enabled.2
  | write id fails =>
    simp only [step] at ok
    split at ok <;> try contradiction
    rename_i call claimed iface rest here
    split at ok
    · rename_i fails
      cases Option.some.inj ok
      cases fails
      exact .broke here
    · rename_i works
      cases Option.some.inj ok
      cases Bool.eq_false_iff.mpr works
      exact .wrote here
  | finish id =>
    simp only [step] at ok
    split at ok <;> try contradiction
    rename_i call claimed here
    cases Option.some.inj ok
    exact .finished here

def writeActions (id : Nat) (fails : Iface → Bool) : List Iface → List Action
  | [] => [.finish id]
  | iface :: rest =>
    if fails iface then [.write id true] else .write id false :: writeActions id fails rest

theorem writeActionsReturn (lib : FrameLib) (fleet : Fleet) {s : State} {id : Nat} {call : Call}
    {claimed : Int} {order : List Iface} (fails : Iface → Bool) (dst : UDPAddr)
    (here : s.calls id = some (call, .writing claimed order)) :
    ∃ s', run (step lib fleet) s (writeActions id fails order) = some s' ∧ s'.store = s.store ∧
      s'.history = .returned id call (writeLoop call.raw dst fails order).1 s.now :: s.history := by
  induction order generalizing s with
  | nil =>
    refine ⟨(s.lock call.inst false).put id call .done (.returned id call .sent s.now), ?_, rfl, rfl⟩
    simp [writeActions, run, step, here]
  | cons iface rest ih =>
    by_cases broken : fails iface = true
    · refine ⟨(s.lock call.inst false).put id call .done
        (.returned id call (.failed (.write iface)) s.now), ?_, rfl, ?_⟩
      · simp [writeActions, broken, run, step, here]
      · simp [writeLoop, broken, State.put, State.lock]
    · obtain ⟨s', ran, store, history⟩ := @ih
        { s with calls := Function.update s.calls id (some (call, .writing claimed rest)) } (by simp)
      refine ⟨s', ?_, store, ?_⟩
      · simpa [writeActions, broken, run, step, here] using ran
      · simp [writeLoop, broken, history]

def Event.ofResult (id : Nat) (call : Call) (fault : Fault) (time : Int) : Result → Event
  | .suppressed => .suppressed id call fault time
  | result => .returned id call result time

theorem writeLoopReturns (raw : Bytes) (dst : UDPAddr) (fails : Iface → Bool) (order : List Iface) :
    (writeLoop raw dst fails order).1 ≠ .suppressed := by
  induction order with
  | nil => simp [writeLoop]
  | cons iface rest ih =>
    unfold writeLoop
    split
    · simp
    · exact ih

theorem soloCall (lib : FrameLib) (fleet : Fleet) (s : State) (id : Nat) (call : Call)
    (fault : Fault) (order : List Iface) (fails : Iface → Bool) (fresh : s.calls id = none)
    (free : s.locked call.inst = false) (visits : order.Perm (fleet.inst call.inst).sockets) :
    let out := (fleet.inst call.inst).retransmit lib call.raw call.txID s.store fault s.now order fails
    ∃ acts s', run (step lib fleet) s acts = some s' ∧ s'.store = out.2.2 ∧
      s'.history.head? = some (.ofResult id call fault s.now out.1) := by
  intro out
  cases gate : (fleet.inst call.inst).gate call.raw s.store fault s.now with
  | mk pass store =>
    cases pass with
    | false =>
      refine ⟨[.start id call fault], _, by simp [run, step, fresh, gate]; rfl, ?_, ?_⟩
      · simp [out, Retransmitter.retransmit, gate, State.put]
      · simp [out, Retransmitter.retransmit, gate, State.put, Event.ofResult]
    | true =>
      cases group : (fleet.inst call.inst).targetGroup lib call.raw call.txID with
      | error e =>
        refine ⟨[.start id call fault, .route id order], _,
          by simp [run, step, fresh, gate, State.put, group]; rfl, ?_, ?_⟩
        · simp [out, Retransmitter.retransmit, gate]
        · simp [out, Retransmitter.retransmit, Retransmitter.send, gate, group, Event.ofResult]
      | ok dst =>
        let s₁ := { s with store := store }.put id call (.routing s.now) (.claimed id call s.now)
        let s₂ := (s₁.lock call.inst true).put id call (.writing s.now order)
          (.entered id call s.now s.now)
        have here : s₂.calls id = some (call, .writing s.now order) := Function.update_self ..
        obtain ⟨s', ran, kept, history⟩ := writeActionsReturn lib fleet fails dst here
        refine ⟨.start id call fault :: .route id order :: writeActions id fails order, s', ?_, ?_, ?_⟩
        · have routed : s₁.calls id = some (call, .routing s.now) := Function.update_self ..
          have first : step lib fleet s (.start id call fault) = some s₁ := by
            simp [step, fresh, gate, s₁]
          have second : step lib fleet s₁ (.route id order) = some s₂ := by
            simp only [step, routed, group]
            exact if_pos ⟨visits, free⟩
          simp only [run, first, second, bind, Option.bind, ran]
        · rw [kept]
          simp [out, Retransmitter.retransmit, gate, s₂, s₁, State.put, State.lock]
        · have result : out.1 = (writeLoop call.raw dst fails order).1 := by
            simp [out, Retransmitter.retransmit, Retransmitter.send, gate, group]
          rw [history, result, List.head?_cons]
          cases loop : (writeLoop call.raw dst fails order).1 with
          | suppressed => exact absurd loop (writeLoopReturns _ _ _ _)
          | sent => rfl
          | failed e => rfl

def SameKey (a b : Call) : Prop :=
  56 ≤ a.raw.length ∧ 56 ≤ b.raw.length ∧ keyBytes a.raw = keyBytes b.raw

theorem SameKey.trans {a b c : Call} (h : SameKey a b) (h' : SameKey b c) : SameKey a c :=
  ⟨h.1, h'.2.1, h.2.2.trans h'.2.2⟩

def Fleet.slot (fleet : Fleet) (call : Call) : Bytes := fleet.dedup.key (keyBytes call.raw)

theorem slotInj {fleet : Fleet} {a b : Call} (la : 56 ≤ a.raw.length) (lb : 56 ≤ b.raw.length)
    (same : fleet.slot a = fleet.slot b) : SameKey a b := ⟨la, lb, keyInj same⟩

theorem gateKeyed (fleet : Fleet) {call : Call} (long : 56 ≤ call.raw.length) (b : Backend)
    (fault : Fault) (now : Int) :
    (fleet.inst call.inst).gate call.raw b fault now =
      let nx := putNX b now (fleet.slot call) claimValue (fleet.window call)
      match fault with
      | .none => nx
      | .lost => (false, b)
      | .landed => (false, nx.2) := by
  have key : buildDedupKey call.raw = some (keyBytes call.raw) := by
    simp [buildDedupKey, keyBytes, Nat.not_lt.mpr long]
  simp only [Retransmitter.gate, fleet.shared, key, Store.setNX, Fleet.slot, Fleet.window]
  cases fault <;> rfl

theorem gateUnkeyed (fleet : Fleet) {call : Call} (short : call.raw.length < 56) (b : Backend)
    (fault : Fault) (now : Int) : (fleet.inst call.inst).gate call.raw b fault now = (true, b) := by
  have key : buildDedupKey call.raw = none := by simp [buildDedupKey, short]
  simp [Retransmitter.gate, fleet.shared, key]

theorem gatePassed {fleet : Fleet} {call : Call} {b b' : Backend} {fault : Fault} {now : Int}
    (long : 56 ≤ call.raw.length)
    (pass : (fleet.inst call.inst).gate call.raw b fault now = (true, b')) :
    read b now (fleet.slot call) = none ∧
      b' = put b now (fleet.slot call) claimValue (fleet.window call) := by
  rw [gateKeyed fleet long] at pass
  cases fault with
  | none =>
    simp only [putNX] at pass
    split at pass
    · cases pass
    · rename_i absent
      exact ⟨by simpa using absent, (congrArg Prod.snd pass).symm⟩
  | lost => cases pass
  | landed => cases pass

theorem gateStopped {fleet : Fleet} {call : Call} {b b' : Backend} {fault : Fault} {now : Int}
    (stop : (fleet.inst call.inst).gate call.raw b fault now = (false, b')) :
    56 ≤ call.raw.length ∧ (fault = .none → (read b now (fleet.slot call)).isSome) ∧
      (b' = b ∨ fault = .landed ∧ read b now (fleet.slot call) = none ∧
        b' = put b now (fleet.slot call) claimValue (fleet.window call)) := by
  have long : 56 ≤ call.raw.length := by
    apply Nat.le_of_not_lt
    intro short
    rw [gateUnkeyed fleet short] at stop
    cases stop
  rw [gateKeyed fleet long] at stop
  refine ⟨long, ?_, ?_⟩
  · intro works
    subst works
    simp only [putNX] at stop
    split at stop
    · assumption
    · cases stop
  · cases fault with
    | none =>
      simp only [putNX] at stop
      split at stop
      · exact .inl (congrArg Prod.snd stop).symm
      · cases stop
    | lost => exact .inl (congrArg Prod.snd stop).symm
    | landed =>
      have same : (putNX b now (fleet.slot call) claimValue (fleet.window call)).2 = b' :=
        congrArg Prod.snd stop
      simp only [putNX] at same
      split at same
      · exact .inl same.symm
      · rename_i absent
        exact .inr ⟨rfl, by simpa using absent, same.symm⟩

def twins (window : Int) : Fleet where
  dedup := ⟨[0x64]⟩
  inst _ := ⟨Engine.single, none, 9000, window, some ⟨[0x64]⟩, ["eth0"], true⟩
  shared _ := rfl

def repair : Call := ⟨0, .nackWorker, List.replicate 60 0, []⟩
def twin : Call := { repair with inst := 1 }

end RetryEndpoint.DedupFleet
