import RetryEndpoint.ClaimFleet
import RetryEndpoint.Leases

/-! The in-flight claims as leases. A claim that was written is a lease of its key
for the window of the instance that wrote it, and what became of the job it was
written for is nowhere looked at. So a job is turned away exactly while a lease of
its key runs. Which jobs share a key is a matter of the key's bytes alone. -/
namespace RetryEndpoint.ClaimLeases
open BigEndian Wire Cache Retransmit Proxy Runs Leases ClaimFleet

def leasesOf (fleet : Fleet) (history : List Event) : List (Lease Bytes) := history.filterMap (fun
  | .granted _ task true t => some ⟨fleet.claimKey task, t, fleet.window task⟩
  | _ => none)

def Claimed (fleet : Fleet) (history : List Event) (task : Task) (now : Int) : Prop :=
  ∃ id' task' t', .granted id' task' true t' ∈ history ∧ fleet.claimKey task' = fleet.claimKey task ∧
    now < t' + fleet.window task'

theorem memLeasesOf {fleet : Fleet} {history : List Event} {l : Lease Bytes} :
    l ∈ leasesOf fleet history ↔ ∃ id task t, .granted id task true t ∈ history ∧
      l = ⟨fleet.claimKey task, t, fleet.window task⟩ := by
  constructor
  · intro mem
    obtain ⟨e, found, is⟩ := List.mem_filterMap.mp mem
    split at is <;> try contradiction
    exact ⟨_, _, _, found, (Option.some.inj is).symm⟩
  · rintro ⟨id, task, t, found, rfl⟩
    exact List.mem_filterMap.mpr ⟨_, found, rfl⟩

theorem claimedIs {fleet : Fleet} {history : List Event} {task : Task} {now : Int} :
    Claimed fleet history task now ↔
      ∃ l ∈ leasesOf fleet history, l.key = fleet.claimKey task ∧ now < l.stop := by
  constructor
  · rintro ⟨id', task', t', found, same, running⟩
    exact ⟨_, memLeasesOf.mpr ⟨id', task', t', found, rfl⟩, same, running⟩
  · rintro ⟨l, mem, same, running⟩
    obtain ⟨id', task', t', found, rfl⟩ := memLeasesOf.mp mem
    exact ⟨id', task', t', found, same, running⟩

def claimOf : Phase → Option Int
  | .trying claimed _ | .waiting claimed _ => some claimed
  | .done => none

def Owed (fleet : Fleet) (e : Event) (older : List Event) : Prop :=
  ∀ id task t, e = .skipped id task t → Claimed fleet older task t

structure Recorded (fleet : Fleet) (s : State) : Prop where
  ledger : Ledger (fleet.view s.backend) s.now (leasesOf fleet s.history)
  running : ∀ id task phase c, s.jobs id = some (task, phase) → claimOf phase = some c →
    c ≤ s.now ∧ ∃ wrote, .granted id task wrote c ∈ s.history
  contacts : ∀ id task c upstream t, .contacted id task c upstream t ∈ s.history →
    c ≤ t ∧ ∃ wrote, .granted id task wrote c ∈ s.history
  skips : Each (Owed fleet) s.history

theorem initRecorded (fleet : Fleet) : Recorded fleet init :=
  ⟨emptyLedger 0, fun _ _ _ _ here => (nomatch here), fun _ _ _ _ _ mem => (nomatch mem), trivial⟩

section Step
variable {lib : FrameLib} {fleet : Fleet} {s s' : State}

theorem Recorded.tick (h : Recorded fleet s) {time : Int} (forward : s.now ≤ time) :
    Recorded fleet { s with now := time } := by
  refine ⟨h.ledger.later forward, ?_, h.contacts, h.skips⟩
  intro id task phase c here under
  obtain ⟨order, grant⟩ := h.running id task phase c here under
  exact ⟨Int.le_trans order forward, grant⟩

theorem Recorded.move (h : Recorded fleet s) {b : Backend} {id : Nat} {task : Task} {phase : Phase}
    {events : List Event} (ledger : Ledger (fleet.view b) s.now (leasesOf fleet (events ++ s.history)))
    (backed : ∀ c, claimOf phase = some c →
      c ≤ s.now ∧ ∃ wrote, .granted id task wrote c ∈ events ++ s.history)
    (contacts : ∀ id task c upstream t, .contacted id task c upstream t ∈ events →
      c ≤ t ∧ ∃ wrote, .granted id task wrote c ∈ s.history)
    (skips : Each (Owed fleet) (events ++ s.history)) :
    Recorded fleet ({ s with backend := b }.move id task phase events) := by
  refine ⟨ledger, ?_, ?_, skips⟩
  · intro id' task' phase' c here under
    rcases movedCases here with ⟨rfl, moved⟩ | ⟨-, there⟩
    · cases moved
      exact backed c under
    · obtain ⟨order, wrote, grant⟩ := h.running id' task' phase' c there under
      exact ⟨order, wrote, List.mem_append_right _ grant⟩
  · intro id' task' c upstream t mem
    obtain ⟨order, wrote, grant⟩ : c ≤ t ∧ ∃ wrote, .granted id' task' wrote c ∈ s.history := by
      rcases List.mem_append.mp mem with new | old
      · exact contacts id' task' c upstream t new
      · exact h.contacts id' task' c upstream t old
    exact ⟨order, wrote, List.mem_append_right _ grant⟩

theorem Recorded.quiet (h : Recorded fleet s) {b : Backend} (same : fleet.view b = fleet.view s.backend)
    {id : Nat} {task : Task} {phase : Phase} {events : List Event}
    (ends : events = [] ∨ ∃ outcome, events = [.ended id task outcome s.now])
    (backed : ∀ c, claimOf phase = some c → c ≤ s.now ∧ ∃ wrote, .granted id task wrote c ∈ s.history) :
    Recorded fleet ({ s with backend := b }.move id task phase events) := by
  have backed' : ∀ c, claimOf phase = some c →
      c ≤ s.now ∧ ∃ wrote, .granted id task wrote c ∈ events ++ s.history := by
    intro c under
    obtain ⟨order, wrote, grant⟩ := backed c under
    exact ⟨order, wrote, List.mem_append_right _ grant⟩
  have ledger := h.ledger
  rw [← same] at ledger
  rcases ends with rfl | ⟨outcome, rfl⟩
  · exact h.move ledger backed' (fun _ _ _ _ _ mem => (nomatch mem)) h.skips
  · refine h.move ledger backed' ?_ ⟨fun _ _ _ e => (nomatch e), h.skips⟩
    intro id' task' c upstream t mem
    cases List.mem_singleton.mp mem

theorem Recorded.refused (h : Recorded fleet s) (task : Task) (fault : Fault) :
    ((fleet.inst task.inst).cfg.claim task.job s.backend fault s.now).1 = false ↔
      fault = .none ∧ Claimed fleet s.history task s.now := by
  rw [claimedIs, ← h.ledger.live, claimIs, ← viewRead]
  cases fault with
  | none =>
    unfold ExpiringStore.putNX
    split <;> simp_all
  | lost | landed => simp

theorem claimView (fleet : Fleet) (s : State) (task : Task) (fault : Fault) :
    fleet.view ((fleet.inst task.inst).cfg.claim task.job s.backend fault s.now).2 =
      if writes fleet s task fault then
        ExpiringStore.put (fleet.view s.backend) s.now (fleet.claimKey task) claimValue (fleet.window task)
      else fleet.view s.backend := by
  have created : fleet.view (ExpiringStore.putNX s.backend s.now (fleet.claims.key (fleet.claimKey task))
      claimValue (fleet.window task)).2 =
      if (ExpiringStore.read (fleet.view s.backend) s.now (fleet.claimKey task)).isNone then
        ExpiringStore.put (fleet.view s.backend) s.now (fleet.claimKey task) claimValue (fleet.window task)
      else fleet.view s.backend := by
    unfold ExpiringStore.putNX
    rw [viewRead]
    cases ExpiringStore.read (fleet.view s.backend) s.now (fleet.claimKey task) with
    | none => exact viewPut ..
    | some v => rfl
  rw [claimIs]
  cases fault with
  | none | landed => simpa [writes] using created
  | lost => simp [writes]

theorem Recorded.granted (h : Recorded fleet s) {id : Nat} {task : Task} {fault : Fault} {b : Backend}
    (claim : (fleet.inst task.inst).cfg.claim task.job s.backend fault s.now = (true, b)) :
    Recorded fleet ({ s with backend := b }.move id task (.trying s.now 0)
      [.granted id task (writes fleet s task fault) s.now]) := by
  have view := claimView fleet s task fault
  rw [claim] at view
  refine h.move ?_ ?_ ?_ ⟨fun _ _ _ e => (nomatch e), h.skips⟩
  · cases wrote : writes fleet s task fault with
    | false =>
      rw [view, wrote]
      exact h.ledger
    | true =>
      have free : ExpiringStore.read (fleet.view s.backend) s.now (fleet.claimKey task) = none := by
        simp only [writes, Bool.and_eq_true, Option.isNone_iff_eq_none] at wrote
        exact wrote.1
      rw [view, wrote]
      exact h.ledger.take free claimValue (fleet.window task)
  · intro c under
    cases Option.some.inj under
    exact ⟨Int.le_refl _, _, List.mem_cons_self⟩
  · intro id' task' c upstream t mem
    cases List.mem_singleton.mp mem

theorem Recorded.skipped (h : Recorded fleet s) {id : Nat} {task : Task} {fault : Fault} {b : Backend}
    (claim : (fleet.inst task.inst).cfg.claim task.job s.backend fault s.now = (false, b)) :
    Recorded fleet ({ s with backend := b }.move id task .done [.skipped id task s.now]) := by
  obtain ⟨rfl, owner⟩ := (h.refused task fault).mp (by rw [claim])
  have kept : fleet.view b = fleet.view s.backend := by
    have view := claimView fleet s task .none
    have held := (h.ledger.live (fleet.claimKey task)).mpr (claimedIs.mp owner)
    rw [claim, writes, Option.isNone_eq_false_iff.mpr held] at view
    exact view
  refine h.move (kept ▸ h.ledger) (fun _ under => (nomatch under)) ?_ ⟨?_, h.skips⟩
  · intro id' task' c upstream t mem
    cases List.mem_singleton.mp mem
  · intro id' task' t e
    cases e
    exact owner

theorem stepRecorded {a : Action fleet} (h : Recorded fleet s) (ok : step lib fleet s a = some s') :
    Recorded fleet s' := by
  cases stepTook ok with
  | tick forward => exact h.tick forward
  | outside => exact ⟨(viewOutside fleet s.backend _).symm ▸ h.ledger, h.running, h.contacts, h.skips⟩
  | granted fresh claim => exact h.granted claim
  | skipped fresh claim => exact h.skipped claim
  | @contacted id env task claimed next upstream here =>
    obtain ⟨order, wrote, grant⟩ := h.running id task _ claimed here rfl
    refine h.move h.ledger ?_ ?_ ⟨fun _ _ _ e => (nomatch e), h.skips⟩
    · intro c under
      cases Option.some.inj under
      exact ⟨order, wrote, List.mem_cons_of_mem _ grant⟩
    · intro id' task' c upstream' t mem
      cases List.mem_singleton.mp mem
      exact ⟨order, wrote, grant⟩
  | unreached here => exact h.quiet rfl (.inl rfl) (fun c under => h.running _ _ _ c here under)
  | missed here => exact h.quiet rfl (.inl rfl) (fun c under => h.running _ _ _ c here under)
  | recovered here => exact h.quiet (viewDeliver ..) (.inr ⟨_, rfl⟩) (fun _ under => (nomatch under))
  | cancelled here => exact h.quiet rfl (.inr ⟨_, rfl⟩) (fun _ under => (nomatch under))
  | exhausted here => exact h.quiet rfl (.inr ⟨_, rfl⟩) (fun _ under => (nomatch under))

theorem runRecorded {acts : List (Action fleet)} (ran : run (step lib fleet) init acts = some s) :
    Recorded fleet s := invariant (fun _ _ _ => stepRecorded) (initRecorded fleet) ran

theorem Recorded.starts (h : Recorded fleet s) {id : Nat} (fresh : s.jobs id = none) (task : Task)
    (fault : Fault) :
    ∃ s', step lib fleet s (.start id task fault) = some s' ∧
      ((s'.history = .skipped id task s.now :: s.history ∧
          fault = .none ∧ Claimed fleet s.history task s.now) ∨
        (s'.jobs id = some (task, .trying s.now 0) ∧
          ¬ (fault = .none ∧ Claimed fleet s.history task s.now))) := by
  have started : step lib fleet s (.start id task fault) = some (start fleet s id task fault) := by
    simp only [step, fresh]
  refine ⟨_, started, ?_⟩
  rw [← h.refused task fault, start]
  cases (fleet.inst task.inst).cfg.claim task.job s.backend fault s.now with
  | mk go b =>
    cases go with
    | false => exact .inl ⟨rfl, rfl⟩
    | true => exact .inr ⟨Function.update_self .., Bool.noConfusion⟩

theorem Recorded.spaced (h : Recorded fleet s) {id id' : Nat} {task task' : Task} {c c' : Int}
    (other : id ≠ id') (grant : .granted id task true c ∈ s.history)
    (grant' : .granted id' task' true c' ∈ s.history) (same : fleet.claimKey task = fleet.claimKey task') :
    c + fleet.window task ≤ c' ∨ c' + fleet.window task' ≤ c := by
  have distinct : Event.granted id task true c ≠ .granted id' task' true c' := by
    intro e
    cases e
    exact other rfl
  rcases pairwiseEither (List.pairwise_filterMap.mp h.ledger.apart) grant grant' distinct with
    later | earlier
  · exact .inr (later _ rfl _ rfl same)
  · exact .inl (earlier _ rfl _ rfl same.symm)

end Step

section Keys

def SameClaim (unicast : Bool) (j j' : Job) : Prop :=
  j.hashKey = j'.hashKey ∧ j.seq = j'.seq ∧ (unicast = true → j.requester = j'.requester)

def PortInRange (j : Job) : Prop := ∀ peer, j.requester = some peer → peer.port < 65536

def tag : Option UDPAddr → Bytes
  | some peer => peer.ip ++ putUint16 (UInt16.ofNat peer.port)
  | none => []

theorem claimKeyIs (cfg : Config) (j : Job) :
    cfg.claimKey j = flowKey j.hashKey j.seq ++ (if cfg.unicast then tag j.requester else []) := by
  unfold Config.claimKey
  cases j.requester with
  | none => simp [tag]
  | some peer => cases cfg.unicast <;> simp [tag]

theorem tagInj {j j' : Job} (port : PortInRange j) (port' : PortInRange j')
    (same : tag j.requester = tag j'.requester) : j.requester = j'.requester := by
  have lengths := congrArg List.length same
  cases r : j.requester with
  | none =>
    cases r' : j'.requester with
    | none => rfl
    | some peer' => simp [tag, r, r'] at lengths
  | some peer =>
    cases r' : j'.requester with
    | none => simp [tag, r, r'] at lengths
    | some peer' =>
      simp only [tag, r, r', List.length_append, putUint16Length] at same lengths
      obtain ⟨ips, ports⟩ := List.append_inj same (by omega)
      have words : UInt16.ofNat peer.port = UInt16.ofNat peer'.port := by
        rw [← uint16Put (UInt16.ofNat peer.port), ports, uint16Put]
      have numbers := congrArg UInt16.toNat words
      rw [UInt16.toNat_ofNat_of_lt' (port peer r), UInt16.toNat_ofNat_of_lt' (port' peer' r')] at numbers
      exact congrArg some (UDPAddr.mk.injEq .. ▸ ⟨ips, numbers⟩)

theorem claimKeyShared {unicast : Bool} {cfg cfg' : Config} (mode : cfg.unicast = unicast)
    (mode' : cfg'.unicast = unicast) {j j' : Job} (same : SameClaim unicast j j') :
    cfg.claimKey j = cfg'.claimKey j' := by
  obtain ⟨hash, seq, requester⟩ := same
  rw [claimKeyIs, claimKeyIs, mode, mode', hash, seq]
  cases unicast with
  | false => rfl
  | true => rw [requester rfl]

theorem claimKeySeparates {unicast : Bool} {cfg cfg' : Config} (mode : cfg.unicast = unicast)
    (mode' : cfg'.unicast = unicast) {j j' : Job} (port : PortInRange j) (port' : PortInRange j')
    (same : cfg.claimKey j = cfg'.claimKey j') : SameClaim unicast j j' := by
  rw [claimKeyIs, claimKeyIs, mode, mode'] at same
  obtain ⟨gap, tags⟩ := List.append_inj same (by simp)
  obtain ⟨hash, seq⟩ := flowKeyInj gap
  refine ⟨hash, seq, ?_⟩
  rintro rfl
  exact tagInj port port' tags

end Keys

def member : Client :=
  new ⟨["upstream"], 0, 0, 10, 0, 0, some ⟨[0x70]⟩, ⟨[0x66]⟩, oneSocket, ⟨60, 60, 60, 60, 60⟩, true, true⟩

def pair : Fleet where
  claims := ⟨[0x70]⟩
  inst _ := member
  shared _ := rfl
  framesApart _ _ _ := by simp [member, new, Store.key]
  dedupApart _ _ found := nomatch found

def asks (inst port : Nat) : Task := ⟨inst, ⟨7, 9, List.replicate 32 0, some ⟨[10, 0, 0, 1], port⟩⟩⟩

def silent : Envs pair := fun _ =>
  ⟨.none, 0, fun _ => false, fun _ => ⟨true, true, true, []⟩, .none, 0, .none, 0, ["eth0"],
    oneSocketVisits, fun _ => false, false⟩

section Release

/-- A claim is never given back: in every state that can be reached, a job that starts
is turned away exactly when the backend answers and some job wrote the same claim less
than a window ago, whatever became of that job. Otherwise it goes on to the upstreams. -/
theorem blockedForAWindow (lib : FrameLib) (fleet : Fleet) (acts : List (Action fleet)) (s : State)
    (ran : run (step lib fleet) init acts = some s) :
    (∀ newer older id task t, s.history = newer ++ .skipped id task t :: older →
      Claimed fleet older task t) ∧
    (∀ id task fault, s.jobs id = none → ∃ s', step lib fleet s (.start id task fault) = some s' ∧
      ((s'.history = .skipped id task s.now :: s.history ∧
          fault = .none ∧ Claimed fleet s.history task s.now) ∨
        (s'.jobs id = some (task, .trying s.now 0) ∧
          ¬ (fault = .none ∧ Claimed fleet s.history task s.now)))) := by
  have h : Recorded fleet s := runRecorded ran
  refine ⟨?_, fun id task fault fresh => h.starts fresh task fault⟩
  intro newer older id task t split
  have each := h.skips
  rw [split] at each
  exact eachAt each id task t rfl

def unanswered : List (Action pair) :=
  [.start 0 (asks 0 9000) .none, .ask 0 silent, .hear 0 silent, .exhaust 0, .tick 5,
    .start 1 (asks 1 9000) .none]

theorem unansweredRuns :
    (run (step FrameLib.plain pair) init unanswered).map (fun s => (s.history, s.jobs 2)) =
      some ([.skipped 1 (asks 1 9000) 5, .ended 0 (asks 0 9000) .exhausted 0,
        .contacted 0 (asks 0 9000) 0 "upstream" 0, .granted 0 (asks 0 9000) true 0], none) := by decide

/- The second job is turned away although the only other one has ended with nothing. -/
theorem failedClaimBlocks :
    ¬ ∀ (lib : FrameLib) (fleet : Fleet) (acts : List (Action fleet)) (s : State),
      run (step lib fleet) init acts = some s →
      ∀ newer older id task t, s.history = newer ++ .skipped id task t :: older →
        ∃ id' task' wrote c, .granted id' task' wrote c ∈ older ∧
          fleet.claimKey task' = fleet.claimKey task ∧
          ((∀ outcome t', .ended id' task' outcome t' ∉ older) ∨
            ∃ raw t', .ended id' task' (.recovered raw) t' ∈ older) := by
  intro always
  obtain ⟨s, ran, recorded⟩ := Option.map_eq_some_iff.mp unansweredRuns
  obtain ⟨history, -⟩ := Prod.ext_iff.mp recorded
  obtain ⟨id', task', wrote, c, grant, -, fate⟩ := always _ pair _ s ran [] _ _ _ _ history
  simp only [List.mem_cons, reduceCtorEq, Event.granted.injEq, List.not_mem_nil, false_or, or_false]
    at grant
  obtain ⟨rfl, rfl, -, -⟩ := grant
  rcases fate with running | ⟨raw, t', got⟩
  · exact running .exhausted 0 (by simp)
  · simp at got

theorem blockedForAWindowUnanswered :
    ∃ s, run (step FrameLib.plain pair) init unanswered = some s ∧
      Claimed pair (s.history.drop 1) (asks 1 9000) 5 ∧
      ∃ s', step FrameLib.plain pair s (.start 2 (asks 1 9000) .none) = some s' ∧
        ((s'.history = .skipped 2 (asks 1 9000) s.now :: s.history ∧
            Fault.none = .none ∧ Claimed pair s.history (asks 1 9000) s.now) ∨
          (s'.jobs 2 = some (asks 1 9000, .trying s.now 0) ∧
            ¬ (Fault.none = .none ∧ Claimed pair s.history (asks 1 9000) s.now))) := by
  obtain ⟨s, ran, recorded⟩ := Option.map_eq_some_iff.mp unansweredRuns
  obtain ⟨history, fresh⟩ := Prod.ext_iff.mp recorded
  obtain ⟨owned, starts⟩ := blockedForAWindow FrameLib.plain pair unanswered s ran
  refine ⟨s, ran, ?_, starts 2 (asks 1 9000) .none fresh⟩
  dsimp only at history
  rw [history]
  exact owned [] _ 1 _ 5 history

end Release

section Separation
variable {lib : FrameLib} {fleet : Fleet} {s s' : State} {unicast : Bool}

def Answered : Action fleet → Prop
  | .start _ task fault => fault = .none ∧ PortInRange task.job
  | _ => True

def Clear : Event → Prop
  | .granted _ task wrote _ => wrote = true ∧ PortInRange task.job
  | .skipped _ task _ => PortInRange task.job
  | _ => True

theorem grantedWrites {task : Task} {b : Backend}
    (claim : (fleet.inst task.inst).cfg.claim task.job s.backend .none s.now = (true, b)) :
    writes fleet s task .none = true := by
  rw [claimIs] at claim
  dsimp only at claim
  rw [ExpiringStore.putNX, viewRead] at claim
  cases found : ExpiringStore.read (fleet.view s.backend) s.now (fleet.claimKey task) with
  | none => simp [writes, found]
  | some v => simp [found] at claim

theorem stepClear {a : Action fleet} (h : ∀ e ∈ s.history, Clear e) (fair : Answered a)
    (ok : step lib fleet s a = some s') : ∀ e ∈ s'.history, Clear e := by
  cases stepTook ok with
  | tick | outside | unreached | missed => exact h
  | @granted id task fault b fresh claim =>
    obtain ⟨rfl, port⟩ := fair
    exact List.forall_mem_cons.mpr ⟨⟨grantedWrites claim, port⟩, h⟩
  | skipped fresh claim => exact List.forall_mem_cons.mpr ⟨fair.2, h⟩
  | contacted | recovered | cancelled | exhausted => exact List.forall_mem_cons.mpr ⟨trivial, h⟩

def Taken (fleet : Fleet) (unicast : Bool) (history : List Event) (task : Task) (now : Int) : Prop :=
  ∃ id' task' wrote t', .granted id' task' wrote t' ∈ history ∧ SameClaim unicast task.job task'.job ∧
    now < t' + fleet.window task'

theorem runClear {acts : List (Action fleet)} (answered : ∀ a ∈ acts, Answered a)
    (ran : run (step lib fleet) init acts = some s) : ∀ e ∈ s.history, Clear e := by
  have start : ∀ e ∈ init.history, Clear e := fun e mem => absurd mem List.not_mem_nil
  have keeps : ∀ (s : State) (a : Action fleet) (s' : State), (∀ e ∈ s.history, Clear e) → Answered a →
      step lib fleet s a = some s' → ∀ e ∈ s'.history, Clear e := fun _ _ _ => stepClear
  exact invariantAlong keeps start (alongAll answered _) ran

theorem claimedTaken (modes : ∀ i, (fleet.inst i).cfg.unicast = unicast) {history : List Event}
    (clear : ∀ e ∈ history, Clear e) {task : Task} (port : PortInRange task.job) (now : Int) :
    Claimed fleet history task now ↔ Taken fleet unicast history task now := by
  constructor
  · rintro ⟨id', task', t', grant, same, running⟩
    have port' := (clear _ grant).2
    exact ⟨id', task', true, t', grant,
      claimKeySeparates (modes _) (modes _) port port' same.symm, running⟩
  · rintro ⟨id', task', wrote, t', grant, same, running⟩
    obtain ⟨rfl, -⟩ := clear _ grant
    exact ⟨id', task', t', grant, (claimKeyShared (modes _) (modes _) same).symm, running⟩

structure Separate (lib : FrameLib) (fleet : Fleet) (unicast : Bool) (s : State) : Prop where
  keys : ∀ task task', PortInRange task.job → PortInRange task'.job →
    (fleet.claimKey task = fleet.claimKey task' ↔ SameClaim unicast task.job task'.job)
  contacts : ∀ id id' task task' c c' upstream upstream' t t', id ≠ id' →
    .contacted id task c upstream t ∈ s.history → .contacted id' task' c' upstream' t' ∈ s.history →
    SameClaim unicast task.job task'.job →
    (c + fleet.window task ≤ c' ∧ c' ≤ t') ∨ (c' + fleet.window task' ≤ c ∧ c ≤ t)
  skips : ∀ newer older id task t, s.history = newer ++ .skipped id task t :: older →
    Taken fleet unicast older task t
  starts : ∀ id task, s.jobs id = none → PortInRange task.job →
    ∃ s', step lib fleet s (.start id task .none) = some s' ∧
      ((s'.history = .skipped id task s.now :: s.history ∧ Taken fleet unicast s.history task s.now) ∨
        (s'.jobs id = some (task, .trying s.now 0) ∧ ¬ Taken fleet unicast s.history task s.now))

/-- Over a backend that answers, two jobs share a claim when they ask for one gap and,
in unicast mode, for one requester. The claims under which two such jobs contact an
upstream stand a window apart. A job is turned away exactly while a job of the same
claim has the window, so never for another requester's job in unicast mode. -/
theorem claimsSeparate (lib : FrameLib) (fleet : Fleet) (unicast : Bool)
    (modes : ∀ i, (fleet.inst i).cfg.unicast = unicast) (acts : List (Action fleet)) (s : State)
    (answered : ∀ a ∈ acts, Answered a) (ran : run (step lib fleet) init acts = some s) :
    Separate lib fleet unicast s := by
  have h : Recorded fleet s := runRecorded ran
  have clear : ∀ e ∈ s.history, Clear e := runClear answered ran
  refine ⟨?_, ?_, ?_, ?_⟩
  · intro task task' port port'
    exact ⟨claimKeySeparates (modes _) (modes _) port port', claimKeyShared (modes _) (modes _)⟩
  · intro id id' task task' c c' upstream upstream' t t' other mem mem' same
    obtain ⟨order, wrote, grant⟩ := h.contacts id task c upstream t mem
    obtain ⟨order', wrote', grant'⟩ := h.contacts id' task' c' upstream' t' mem'
    obtain ⟨rfl, -⟩ := clear _ grant
    obtain ⟨rfl, -⟩ := clear _ grant'
    rcases h.spaced other grant grant' (claimKeyShared (modes _) (modes _) same) with first | second
    · exact .inl ⟨first, order'⟩
    · exact .inr ⟨second, order⟩
  · intro newer older id task t split
    have each := h.skips
    rw [split] at each clear
    have port : PortInRange task.job :=
      clear (.skipped id task t) (List.mem_append_right _ List.mem_cons_self)
    have before : ∀ e ∈ older, Clear e := fun e mem =>
      clear e (List.mem_append_right _ (List.mem_cons_of_mem _ mem))
    exact (claimedTaken modes before port t).mp (eachAt each id task t rfl)
  · intro id task fresh port
    simpa only [claimedTaken modes clear port, true_and] using h.starts fresh task .none

def repeats : List (Action pair) :=
  [.start 0 (asks 0 9000) .none, .ask 0 silent, .start 1 (asks 1 9000) .none,
    .start 2 (asks 1 9001) .none, .ask 2 silent, .tick 10, .start 3 (asks 1 9000) .none, .ask 3 silent]

theorem repeatsRun :
    (run (step FrameLib.plain pair) init repeats).map (·.history) =
      some [.contacted 3 (asks 1 9000) 10 "upstream" 10, .granted 3 (asks 1 9000) true 10,
        .contacted 2 (asks 1 9001) 0 "upstream" 0, .granted 2 (asks 1 9001) true 0,
        .skipped 1 (asks 1 9000) 0, .contacted 0 (asks 0 9000) 0 "upstream" 0,
        .granted 0 (asks 0 9000) true 0] := by decide

theorem asksInRange {inst port : Nat} (low : port < 65536) : PortInRange (asks inst port).job := by
  rintro peer ⟨⟩
  exact low

theorem claimsSeparateRepeats :
    ∃ s, run (step FrameLib.plain pair) init repeats = some s ∧
      .contacted 3 (asks 1 9000) 10 "upstream" 10 ∈ s.history ∧
      .contacted 2 (asks 1 9001) 0 "upstream" 0 ∈ s.history ∧
      .skipped 1 (asks 1 9000) 0 ∈ s.history ∧ Separate FrameLib.plain pair true s := by
  obtain ⟨s, ran, recorded⟩ := Option.map_eq_some_iff.mp repeatsRun
  refine ⟨s, ran, by simp [recorded], by simp [recorded], by simp [recorded],
    claimsSeparate FrameLib.plain pair true (fun _ => rfl) repeats s ?_ ran⟩
  simp [repeats, Answered, asksInRange]

def heldUp : List (Action pair) :=
  [.start 0 (asks 0 9000) .none, .tick 10, .start 1 (asks 1 9000) .none, .ask 0 silent, .ask 1 silent]

theorem heldUpRuns :
    (run (step FrameLib.plain pair) init heldUp).map (·.history) =
      some [.contacted 1 (asks 1 9000) 10 "upstream" 10, .contacted 0 (asks 0 9000) 0 "upstream" 10,
        .granted 1 (asks 1 9000) true 10, .granted 0 (asks 0 9000) true 0] := by decide

/- The first job was held up between its claim and its upstream until the claim had run
out, and asks at the same time as the next job of the claim. -/
theorem lateContactsMeet :
    ¬ ∀ (lib : FrameLib) (fleet : Fleet) (unicast : Bool), (∀ i, (fleet.inst i).cfg.unicast = unicast) →
      ∀ (acts : List (Action fleet)) (s : State), (∀ a ∈ acts, Answered a) →
      (∀ id task fault peer, .start id task fault ∈ acts → task.job.requester = some peer →
        peer.ip.length = 4 ∨ peer.ip.length = 16) →
      run (step lib fleet) init acts = some s →
      ∀ id id' task task' c c' upstream upstream' t t', id ≠ id' →
        .contacted id task c upstream t ∈ s.history → .contacted id' task' c' upstream' t' ∈ s.history →
        SameClaim unicast task.job task'.job →
        t + fleet.window task ≤ t' ∨ t' + fleet.window task' ≤ t := by
  intro always
  obtain ⟨s, ran, recorded⟩ := Option.map_eq_some_iff.mp heldUpRuns
  have answered : ∀ a ∈ heldUp, Answered a := by simp [heldUp, Answered, asksInRange]
  have short : ∀ id task fault peer, .start id task fault ∈ heldUp → task.job.requester = some peer →
      peer.ip.length = 4 ∨ peer.ip.length = 16 := by
    intro id task fault peer started asker
    simp only [heldUp, List.mem_cons, Action.start.injEq, reduceCtorEq, List.not_mem_nil, or_false, false_or]
      at started
    rcases started with ⟨-, rfl, -⟩ | ⟨-, rfl, -⟩ <;> cases asker <;> exact .inl rfl
  have near := always _ pair true (fun _ => rfl) heldUp s answered short ran 0 1 (asks 0 9000) (asks 1 9000) 0 10
    "upstream" "upstream" 10 10 (by decide) (by simp [recorded]) (by simp [recorded]) ⟨rfl, rfl, fun _ => rfl⟩
  revert near
  decide

end Separation

end RetryEndpoint.ClaimLeases
