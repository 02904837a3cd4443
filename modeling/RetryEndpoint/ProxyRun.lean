import RetryEndpoint.Proxy
import RetryEndpoint.WorkPool

/-! The proxy client at work: Enqueue drops a job when the queue is full, the workers of
Start take the others and run recover, and any of them may move between two steps of
another. The context is looked at by an idle worker and before each attempt, and
nowhere else. The counters are what recover and Enqueue themselves add: the server moves
two of them as well. -/
namespace RetryEndpoint.ProxyRun
open BigEndian Wire Cache Retransmit Proxy Runs WorkPool

inductive Outcome where
  | deduped
  | recovered (raw : Bytes)
  | exhausted
  | stopped
  deriving DecidableEq, Repr

inductive Phase where
  | begun
  | claiming
  | trying (next : Nat)
  | asking (next : Nat)
  | waiting (next : Nat)
  | storing (raw : Bytes)
  | multicasting (raw : Bytes)
  | unicasting (raw : Bytes)
  | closing (raw : Bytes)
  | done (outcome : Outcome)
  deriving DecidableEq, Repr

structure Books where
  queueDropped : Nat
  requests : Nat
  inflightDedup : Nat
  recovered : Nat
  failed : Nat
  retransmits : Nat
  unicasts : Nat
  deriving DecidableEq, Repr

/- asked lists the tickets of the recoveries that put a NACK on the wire, newest first. -/
structure State where
  pool : Pool Job
  jobs : Nat → Option (Job × Phase)
  backend : Backend
  books : Books
  asked : List Nat
  offered : Nat

def init (c : Client) (b : Backend) : State :=
  ⟨WorkPool.new c.cfg.workers.toNat, fun _ => none, b, ⟨0, 0, 0, 0, 0, 0, 0⟩, [], 0⟩

inductive Action (c : Client) where
  | enqueue (j : Job)
  | cancel
  | outside (b : Backend)
  | take (i : Nat)
  | count (id : Nat)
  | claim (id : Nat) (fault : Fault) (now : Int)
  | look (id : Nat)
  | ask (id : Nat) (a : Attempt)
  | hear (id : Nat) (arrivals : List Bytes)
  | store (id : Nat) (fault : Fault) (now : Int)
  | multicast (id : Nat) (env : Env c.cfg.retrans)
  | unicast (id : Nat) (fails : Bool)
  | close (id : Nat)
  | finish (i ticket : Nat)
  | exit (i : Nat)

def Action.own {c : Client} : Action c → Bool
  | .enqueue _ | .cancel | .outside _ => false
  | _ => true

def State.move (s : State) (id : Nat) (j : Job) (phase : Phase) : State :=
  { s with jobs := Function.update s.jobs id (some (j, phase)) }

def sentOut : Effect → Bool
  | .retransmit _ _ .sent _ => true
  | _ => false

def unicastOut : Effect → Bool
  | .unicast _ _ true => true
  | _ => false

section Step
variable (lib : FrameLib) (c : Client)

def depth : Nat := c.cfg.queueDepth.toNat

def endpoints : Nat := c.cfg.maxEndpoints.toNat

def step (s : State) : Action c → Option State
  | .enqueue j =>
    let (ok, queue) := c.enqueue s.pool.queue j
    if ok then
      some { s with pool := { s.pool with queue := queue, sent := s.pool.sent ++ [j] }, offered := s.offered + 1 }
    else
      some { s with
        books := { s.books with queueDropped := s.books.queueDropped + 1 }, offered := s.offered + 1 }
  | .cancel => some { s with pool := s.pool.cancel }
  | .outside b => some { s with backend := b }
  | .take i => do
    let (j, pool) ← s.pool.take i
    some { s with pool := pool, jobs := Function.update s.jobs s.pool.taken.length (some (j, .begun)) }
  | .count id => match s.jobs id with
    | some (j, .begun) =>
      some { s.move id j .claiming with books := { s.books with requests := s.books.requests + 1 } }
    | _ => none
  | .claim id fault now => match s.jobs id with
    | some (j, .claiming) =>
      let (go, b) := c.cfg.claim j s.backend fault now
      if go then some { s.move id j (.trying 0) with backend := b }
      else some { s.move id j (.done .deduped) with
        backend := b, books := { s.books with inflightDedup := s.books.inflightDedup + 1 } }
    | _ => none
  -- The head of the loop: its condition, then the context.
  | .look id => match s.jobs id with
    | some (j, .trying next) =>
      if next < endpoints c then
        if s.pool.cancelled then some (s.move id j (.done .stopped)) else some (s.move id j (.asking next))
      else some { s.move id j (.done .exhausted) with
        books := { s.books with failed := s.books.failed + 1 } }
    | _ => none
  | .ask id a => match s.jobs id with
    | some (j, .asking next) => match c.cfg.upstreams[next]? with
      | some _ =>
        if a.resolves && a.listens && a.sends then
          some { s.move id j (.waiting next) with asked := id :: s.asked }
        else some (s.move id j (.trying (next + 1)))
      | none => none
    | _ => none
  | .hear id arrivals => match s.jobs id with
    | some (j, .waiting next) => match fetchLoop arrivals with
      | some raw => some (s.move id j (.storing raw))
      | none => some (s.move id j (.trying (next + 1)))
    | _ => none
  | .store id fault now => match s.jobs id with
    | some (j, .storing raw) =>
      some { s.move id j (.multicasting raw) with backend := (c.cfg.store raw s.backend fault now).2 }
    | _ => none
  | .multicast id env => match s.jobs id with
    | some (j, .multicasting raw) =>
      let (fx, b) := c.cfg.resend lib env raw s.backend
      some { s.move id j (.unicasting raw) with
        backend := b, books := { s.books with retransmits := s.books.retransmits + fx.countP sentOut } }
    | _ => none
  | .unicast id fails => match s.jobs id with
    | some (j, .unicasting raw) =>
      let fx := c.cfg.handBack j raw fails
      some { s.move id j (.closing raw) with
        books := { s.books with unicasts := s.books.unicasts + fx.countP unicastOut } }
    | _ => none
  | .close id => match s.jobs id with
    | some (j, .closing raw) =>
      some { s.move id j (.done (.recovered raw)) with
        books := { s.books with recovered := s.books.recovered + 1 } }
    | _ => none
  | .finish i ticket => match s.jobs ticket with
    | some (_, .done _) => do
      let pool ← s.pool.finish i ticket
      some { s with pool := pool }
    | _ => none
  | .exit i => do
    let pool ← s.pool.exit i
    some { s with pool := pool }

inductive Took (s : State) : Action c → State → Prop where
  | queued {j} (room : s.pool.queue.length < depth c) :
      Took s (.enqueue j) { s with
        pool := { s.pool with queue := s.pool.queue ++ [j], sent := s.pool.sent ++ [j] },
        offered := s.offered + 1 }
  | dropped {j} (full : depth c ≤ s.pool.queue.length) :
      Took s (.enqueue j) { s with
        books := { s.books with queueDropped := s.books.queueDropped + 1 }, offered := s.offered + 1 }
  | cancel : Took s .cancel { s with pool := s.pool.cancel }
  | outside {b} : Took s (.outside b) { s with backend := b }
  | take {i j rest} (idle : s.pool.hands[i]? = some .idle) (next : s.pool.queue = j :: rest) :
      Took s (.take i) { s with
        pool := { s.pool with
          queue := rest, hands := s.pool.hands.set i (.busy s.pool.taken.length),
          taken := s.pool.taken ++ [j] },
        jobs := Function.update s.jobs s.pool.taken.length (some (j, .begun)) }
  | counted {id j} (here : s.jobs id = some (j, .begun)) :
      Took s (.count id)
        { s.move id j .claiming with books := { s.books with requests := s.books.requests + 1 } }
  | claimed {id fault now j b} (here : s.jobs id = some (j, .claiming))
      (claim : c.cfg.claim j s.backend fault now = (true, b)) :
      Took s (.claim id fault now) { s.move id j (.trying 0) with backend := b }
  | deduped {id fault now j b} (here : s.jobs id = some (j, .claiming))
      (claim : c.cfg.claim j s.backend fault now = (false, b)) :
      Took s (.claim id fault now) { s.move id j (.done .deduped) with
        backend := b, books := { s.books with inflightDedup := s.books.inflightDedup + 1 } }
  | stopped {id j next} (here : s.jobs id = some (j, .trying next)) (told : s.pool.cancelled = true) :
      Took s (.look id) (s.move id j (.done .stopped))
  | looked {id j next} (here : s.jobs id = some (j, .trying next)) (low : next < endpoints c)
      (quiet : s.pool.cancelled = false) : Took s (.look id) (s.move id j (.asking next))
  | exhausted {id j next} (here : s.jobs id = some (j, .trying next)) (high : endpoints c ≤ next) :
      Took s (.look id) { s.move id j (.done .exhausted) with
        books := { s.books with failed := s.books.failed + 1 } }
  | asked {id a j next} (here : s.jobs id = some (j, .asking next)) :
      Took s (.ask id a) { s.move id j (.waiting next) with asked := id :: s.asked }
  | unreached {id a j next} (here : s.jobs id = some (j, .asking next)) :
      Took s (.ask id a) (s.move id j (.trying (next + 1)))
  | heard {id arrivals j next raw} (here : s.jobs id = some (j, .waiting next))
      (frame : fetchLoop arrivals = some raw) : Took s (.hear id arrivals) (s.move id j (.storing raw))
  | missed {id arrivals j next} (here : s.jobs id = some (j, .waiting next)) :
      Took s (.hear id arrivals) (s.move id j (.trying (next + 1)))
  | stored {id fault now j raw} (here : s.jobs id = some (j, .storing raw)) :
      Took s (.store id fault now)
        { s.move id j (.multicasting raw) with backend := (c.cfg.store raw s.backend fault now).2 }
  | multicast {id env j raw} (here : s.jobs id = some (j, .multicasting raw)) :
      Took s (.multicast id env) { s.move id j (.unicasting raw) with
        backend := (c.cfg.resend lib env raw s.backend).2
        books := { s.books with
          retransmits := s.books.retransmits + (c.cfg.resend lib env raw s.backend).1.countP sentOut } }
  | unicast {id fails j raw} (here : s.jobs id = some (j, .unicasting raw)) :
      Took s (.unicast id fails) { s.move id j (.closing raw) with
        books := { s.books with
          unicasts := s.books.unicasts + (c.cfg.handBack j raw fails).countP unicastOut } }
  | closed {id j raw} (here : s.jobs id = some (j, .closing raw)) :
      Took s (.close id) { s.move id j (.done (.recovered raw)) with
        books := { s.books with recovered := s.books.recovered + 1 } }
  | finish {i ticket j outcome} (busy : s.pool.hands[i]? = some (.busy ticket))
      (through : s.jobs ticket = some (j, .done outcome)) :
      Took s (.finish i ticket) { s with
        pool := { s.pool with hands := s.pool.hands.set i .idle, finished := ticket :: s.pool.finished } }
  | exit {i} (idle : s.pool.hands[i]? = some .idle)
      (told : s.pool.cancelled = true ∨ s.pool.closed = true ∧ s.pool.queue = []) :
      Took s (.exit i) { s with pool := { s.pool with hands := s.pool.hands.set i .gone } }

variable {lib c}

theorem stepTook {s s' : State} {a : Action c} (ok : step lib c s a = some s') : Took lib c s a s' := by
  cases a with
  | enqueue j =>
    simp only [step, Client.enqueue] at ok
    split at ok
    · cases Option.some.inj ok
      refine .queued ?_
      unfold depth
      omega
    · cases Option.some.inj ok
      refine .dropped ?_
      unfold depth
      omega
  | cancel => cases Option.some.inj ok; exact .cancel
  | outside b => cases Option.some.inj ok; exact .outside
  | take i =>
    obtain ⟨⟨j, pool⟩, took, ok⟩ := Option.bind_eq_some_iff.mp ok
    obtain ⟨rest, idle, next, rfl⟩ := takeMoved took
    cases Option.some.inj ok
    exact .take idle next
  | count id =>
    simp only [step] at ok
    split at ok <;> try contradiction
    rename_i j here
    cases Option.some.inj ok
    exact .counted here
  | claim id fault now =>
    simp only [step] at ok
    split at ok <;> try contradiction
    rename_i j here
    split at ok
    · rename_i go
      cases Option.some.inj ok
      exact .claimed here (Prod.ext go rfl)
    · rename_i stop
      cases Option.some.inj ok
      exact .deduped here (Prod.ext (Bool.eq_false_iff.mpr stop) rfl)
  | look id =>
    simp only [step] at ok
    split at ok <;> try contradiction
    rename_i j next here
    split at ok
    · rename_i low
      split at ok
      · cases Option.some.inj ok
        exact .stopped here (by assumption)
      · rename_i quiet
        cases Option.some.inj ok
        exact .looked here low (Bool.eq_false_iff.mpr quiet)
    · rename_i high
      cases Option.some.inj ok
      exact .exhausted here (Nat.le_of_not_lt high)
  | ask id a =>
    simp only [step] at ok
    split at ok <;> try contradiction
    rename_i j next here
    split at ok <;> try contradiction
    split at ok
    · cases Option.some.inj ok
      exact .asked here
    · cases Option.some.inj ok
      exact .unreached here
  | hear id arrivals =>
    simp only [step] at ok
    split at ok <;> try contradiction
    rename_i j next here
    split at ok
    · rename_i raw frame
      cases Option.some.inj ok
      exact .heard here frame
    · cases Option.some.inj ok
      exact .missed here
  | store id fault now =>
    simp only [step] at ok
    split at ok <;> try contradiction
    rename_i j raw here
    cases Option.some.inj ok
    exact .stored here
  | multicast id env =>
    simp only [step] at ok
    split at ok <;> try contradiction
    rename_i j raw here
    cases Option.some.inj ok
    exact .multicast here
  | unicast id fails =>
    simp only [step] at ok
    split at ok <;> try contradiction
    rename_i j raw here
    cases Option.some.inj ok
    exact .unicast here
  | close id =>
    simp only [step] at ok
    split at ok <;> try contradiction
    rename_i j raw here
    cases Option.some.inj ok
    exact .closed here
  | finish i ticket =>
    simp only [step] at ok
    split at ok <;> try contradiction
    rename_i j outcome through
    obtain ⟨pool, done, ok⟩ := Option.bind_eq_some_iff.mp ok
    obtain ⟨busy, rfl⟩ := finishMoved done
    cases Option.some.inj ok
    exact .finish busy through
  | exit i =>
    obtain ⟨pool, left, ok⟩ := Option.bind_eq_some_iff.mp ok
    obtain ⟨idle, told, rfl⟩ := exitMoved left
    cases Option.some.inj ok
    exact .exit idle told

end Step

def isDone : Phase → Bool
  | .done _ => true
  | _ => false

def wasCounted : Phase → Nat
  | .begun => 0
  | _ => 1

def wasDeduped : Phase → Nat
  | .done .deduped => 1
  | _ => 0

def wasRecovered : Phase → Nat
  | .done (.recovered _) => 1
  | _ => 0

def wasExhausted : Phase → Nat
  | .done .exhausted => 1
  | _ => 0

def wasStopped : Phase → Nat
  | .done .stopped => 1
  | _ => 0

def wasResent : Phase → Nat
  | .unicasting _ | .closing _ | .done (.recovered _) => 1
  | _ => 0

def wasReturned : Phase → Nat
  | .closing _ | .done (.recovered _) => 1
  | _ => 0

structure Balanced (n : Nat) (jobs : Nat → Option (Job × Phase)) (books : Books) : Prop where
  requests : books.requests = total wasCounted n jobs
  deduped : books.inflightDedup = total wasDeduped n jobs
  recovered : books.recovered = total wasRecovered n jobs
  failed : books.failed = total wasExhausted n jobs
  retransmits : books.retransmits ≤ total wasResent n jobs
  unicasts : books.unicasts ≤ total wasReturned n jobs

structure Follows (books books' : Books) (phase phase' : Phase) : Prop where
  queueDropped : books'.queueDropped = books.queueDropped
  requests : books'.requests + wasCounted phase = books.requests + wasCounted phase'
  deduped : books'.inflightDedup + wasDeduped phase = books.inflightDedup + wasDeduped phase'
  recovered : books'.recovered + wasRecovered phase = books.recovered + wasRecovered phase'
  failed : books'.failed + wasExhausted phase = books.failed + wasExhausted phase'
  retransmits : books'.retransmits + wasResent phase ≤ books.retransmits + wasResent phase'
  unicasts : books'.unicasts + wasReturned phase ≤ books.unicasts + wasReturned phase'

section Balance
variable {n id : Nat} {jobs : Nat → Option (Job × Phase)} {books books' : Books} {j : Job}
  {phase phase' : Phase}

theorem Balanced.move (h : Balanced n jobs books) (low : id < n) (here : jobs id = some (j, phase))
    (follows : Follows books books' phase phase') :
    Balanced n (Function.update jobs id (some (j, phase'))) books' where
  requests := totalCounts low here h.requests follows.requests
  deduped := totalCounts low here h.deduped follows.deduped
  recovered := totalCounts low here h.recovered follows.recovered
  failed := totalCounts low here h.failed follows.failed
  retransmits := totalCovers low here h.retransmits follows.retransmits
  unicasts := totalCovers low here h.unicasts follows.unicasts

theorem Balanced.begin (h : Balanced n jobs books) (j : Job) :
    Balanced (n + 1) (Function.update jobs n (some (j, .begun))) books := by
  constructor
  · rw [totalBegin, h.requests]; rfl
  · rw [totalBegin, h.deduped]; rfl
  · rw [totalBegin, h.recovered]; rfl
  · rw [totalBegin, h.failed]; rfl
  · rw [totalBegin]; exact h.retransmits
  · rw [totalBegin]; exact h.unicasts

theorem resentOnce (lib : FrameLib) (cfg : Config) (env : Env cfg.retrans) (raw : Bytes) (b : Backend) :
    (cfg.resend lib env raw b).1.countP sentOut ≤ 1 := by
  refine List.countP_le_length.trans ?_
  rcases resendEffect lib cfg env raw b with none | ⟨_, _, _, one⟩
  · simp [none]
  · simp [one]

theorem returnedOnce (cfg : Config) (j : Job) (raw : Bytes) (fails : Bool) :
    (cfg.handBack j raw fails).countP unicastOut ≤ 1 := by
  refine List.countP_le_length.trans ?_
  rcases handBackEffect cfg j raw fails with none | ⟨_, _, one⟩
  · simp [none]
  · simp [one]

end Balance

structure Sound (c : Client) (s : State) : Prop where
  pool : WorkPool.Sound (depth c) s.pool
  tracked : Tracked isDone s.pool.taken s.pool.finished s.jobs
  workers : s.pool.hands.length = c.cfg.workers.toNat
  isOpen : s.pool.closed = false
  offered : s.offered = s.pool.sent.length + s.books.queueDropped
  inLoop : ∀ id j next, s.jobs id = some (j, .asking next) ∨ s.jobs id = some (j, .waiting next) →
    next < endpoints c
  balanced : Balanced s.pool.taken.length s.jobs s.books
  stopped : s.pool.cancelled = false → total wasStopped s.pool.taken.length s.jobs = 0

section Keeps
variable {lib : FrameLib} {c : Client} {s s' : State}

theorem initSound (c : Client) (b : Backend) : Sound c (init c b) where
  pool := soundNew ..
  tracked := trackedNew
  workers := List.length_replicate
  isOpen := rfl
  offered := rfl
  inLoop := fun id j next here => by rcases here with here | here <;> cases here
  balanced := ⟨rfl, rfl, rfl, rfl, Nat.le_refl _, Nat.le_refl _⟩
  stopped := fun _ => rfl

theorem Sound.stillInLoop (h : Sound c s) {id : Nat} {j : Job} {phase : Phase}
    (inLoop : ∀ next, phase = .asking next ∨ phase = .waiting next → next < endpoints c) (k : Nat) (j' : Job)
    (next : Nat) (there : Function.update s.jobs id (some (j, phase)) k = some (j', .asking next) ∨
      Function.update s.jobs id (some (j, phase)) k = some (j', .waiting next)) : next < endpoints c := by
  rcases there with there | there <;> rcases movedCases there with ⟨-, same⟩ | ⟨-, old⟩
  · exact inLoop next (.inl (Prod.ext_iff.mp same).2)
  · exact h.inLoop k j' next (.inl old)
  · exact inLoop next (.inr (Prod.ext_iff.mp same).2)
  · exact h.inLoop k j' next (.inr old)

theorem Sound.move (h : Sound c s) {id : Nat} {j : Job} {phase phase' : Phase} {books : Books}
    (b : Backend) (asked : List Nat) (here : s.jobs id = some (j, phase)) (still : isDone phase = false)
    (inLoop : ∀ next, phase' = .asking next ∨ phase' = .waiting next → next < endpoints c)
    (follows : Follows s.books books phase phase') (stopped : s.pool.cancelled = false → wasStopped phase' = 0) :
    Sound c { s.move id j phase' with backend := b, asked := asked, books := books } := by
  have low := h.tracked.low here
  refine { h with
    tracked := h.tracked.move here still phase', offered := follows.queueDropped ▸ h.offered,
    balanced := h.balanced.move low here follows, inLoop := h.stillInLoop inLoop, stopped := ?_ }
  intro quiet
  have moved := totalMove wasStopped low here phase'
  have before := h.stopped quiet
  have after := stopped quiet
  simp only [State.move]
  omega

theorem stepSound {a : Action c} (h : Sound c s) (stepped : step lib c s a = some s') : Sound c s' := by
  cases stepTook stepped with
  | @queued j room =>
    refine { h with pool := h.pool.moved (.send h.isOpen room), offered := ?_ }
    have before := h.offered
    simp only [List.length_append, List.length_singleton]
    omega
  | dropped full =>
    refine { h with offered := ?_, balanced := { h.balanced with } }
    have before := h.offered
    dsimp only
    omega
  | cancel => exact { h with pool := h.pool.moved .cancel, stopped := nofun }
  | outside => exact { h with }
  | @take i j rest idle next =>
    refine { h with
      pool := h.pool.moved (.take idle next), workers := (List.length_set ..).trans h.workers,
      tracked := h.tracked.begin j .begun, inLoop := h.stillInLoop (by simp), balanced := ?_, stopped := ?_ }
    · simpa using h.balanced.begin j
    · intro quiet
      simp only [List.length_append, List.length_singleton, totalBegin, h.stopped quiet]
      rfl
  | counted here | claimed here | deduped here | exhausted here | heard here | missed here | unreached here
  | stored here | closed here =>
    exact h.move _ _ here rfl (by simp) ⟨rfl, rfl, rfl, rfl, rfl, Nat.le_refl _, Nat.le_refl _⟩ (fun _ => rfl)
  | stopped here told =>
    refine h.move _ _ here rfl (by simp) ⟨rfl, rfl, rfl, rfl, rfl, Nat.le_refl _, Nat.le_refl _⟩ ?_
    intro quiet
    rw [told] at quiet
    cases quiet
  | looked here low quiet =>
    exact h.move _ _ here rfl (by simpa using low) ⟨rfl, rfl, rfl, rfl, rfl, Nat.le_refl _, Nat.le_refl _⟩
      (fun _ => rfl)
  | @asked id a j next here =>
    have low := h.inLoop id j next (.inl here)
    exact h.move _ _ here rfl (by simpa using low) ⟨rfl, rfl, rfl, rfl, rfl, Nat.le_refl _, Nat.le_refl _⟩
      (fun _ => rfl)
  | @multicast id env j raw here =>
    have once := resentOnce lib c.cfg env raw s.backend
    exact h.move _ _ here rfl (by simp) ⟨rfl, rfl, rfl, rfl, rfl, Nat.add_le_add_left once _, Nat.le_refl _⟩
      (fun _ => rfl)
  | @unicast id fails j raw here =>
    have once := returnedOnce c.cfg j raw fails
    exact h.move _ _ here rfl (by simp) ⟨rfl, rfl, rfl, rfl, rfl, Nat.le_refl _, Nat.add_le_add_left once _⟩
      (fun _ => rfl)
  | finish busy through =>
    exact { h with
      pool := h.pool.moved (.finish busy), workers := (List.length_set ..).trans h.workers,
      tracked := h.tracked.finish through rfl }
  | exit idle told =>
    exact { h with
      pool := h.pool.moved (.exit idle told), workers := (List.length_set ..).trans h.workers }

end Keeps

def someEnv (r : Retransmitter) : Env r where
  claimFault := .none
  claimNow := 0
  cancelled := fun _ => false
  attempt := fun _ => ⟨false, false, false, []⟩
  storeFault := .none
  storeNow := 0
  dedupFault := .none
  dedupNow := 0
  order := r.sockets
  visits := listedOrder r
  egressFails := fun _ => false
  unicastFails := false

/- Two workers behind a queue of one. The third job offered is dropped; the first is
recovered; the second has passed its check when the context is done, asks, hears
nothing and stops. -/
def pair : Client :=
  Proxy.new ⟨["one", "two"], 0, 0, 0, 2, 1, none, ⟨[0x66]⟩, oneSocket, ⟨60, 60, 60, 60, 60⟩, true, true⟩

def gap : Job := ⟨7, 9, List.replicate 32 0, some ⟨[10, 0, 0, 1], 4000⟩⟩

def reached : Attempt := ⟨true, true, true, []⟩

def repair : Bytes := preamble ++ List.replicate 34 1 ++ flowKey 7 9 ++ List.replicate 36 0

def untilCancel : List (Action pair) :=
  [.enqueue gap, .take 0, .enqueue gap, .enqueue gap, .count 0, .take 1, .claim 0 .none 0, .look 0, .count 1,
    .ask 0 reached, .claim 1 .none 0, .look 1, .hear 0 [repair], .cancel]

def untilGone : List (Action pair) :=
  [.store 0 .none 0, .ask 1 reached, .multicast 0 (someEnv pair.cfg.retrans), .unicast 0 false, .hear 1 [], .close 0,
    .finish 0 0, .exit 0, .look 1, .finish 1 1, .exit 1]

section Accounts
variable {lib : FrameLib} {c : Client} {b : Backend} {acts : List (Action c)} {s : State}

theorem soundReached (ran : run (step lib c) (init c b) acts = some s) : Sound c s :=
  invariant (fun _ _ _ h stepped => stepSound h stepped) (initSound c b) ran

def halted (s : State) : Nat := total wasStopped s.pool.taken.length s.jobs

theorem Sound.partition (h : Sound c s) :
    s.pool.taken.length = s.books.inflightDedup + s.books.recovered + s.books.failed + halted s +
      (running isDone s.pool s.jobs).length := by
  have split : (fun _ => 1) = fun phase => wasDeduped phase + (wasRecovered phase + (wasExhausted phase +
      (wasStopped phase + if isDone phase then 0 else 1))) := by
    funext phase
    cases phase with
    | done outcome => cases outcome <;> rfl
    | _ => rfl
  have all := totalOne h.tracked
  rw [split, totalAdd, totalAdd, totalAdd, totalAdd, totalCount, ← h.balanced.deduped, ← h.balanced.recovered,
    ← h.balanced.failed] at all
  rw [halted]
  omega

theorem returnedResent (phase : Phase) : wasReturned phase ≤ wasResent phase := by
  cases phase with
  | done outcome => cases outcome <;> simp [wasReturned, wasResent]
  | _ => simp [wasReturned, wasResent]

theorem resentUnended (phase : Phase) : wasResent phase ≤ wasRecovered phase + if isDone phase then 0 else 1 := by
  cases phase with
  | done outcome => cases outcome <;> simp [wasResent, wasRecovered]
  | _ => simp [wasResent, wasRecovered, isDone]

theorem Sound.sends (h : Sound c s) :
    s.books.retransmits ≤ s.books.recovered + (running isDone s.pool s.jobs).length ∧
    s.books.unicasts ≤ s.books.recovered + (running isDone s.pool s.jobs).length := by
  have both : s.books.recovered + (running isDone s.pool s.jobs).length =
      total (fun phase => wasRecovered phase + if isDone phase then 0 else 1) s.pool.taken.length s.jobs := by
    rw [totalAdd, totalCount, h.balanced.recovered]
  have resent := totalLe resentUnended s.pool.taken.length s.jobs
  rw [both]
  exact ⟨h.balanced.retransmits.trans resent, h.balanced.unicasts.trans ((totalLe returnedResent ..).trans resent)⟩

/-- Every job offered to the client is dropped and counted so, waits in the queue, or is
taken, in the order offered; a job taken is counted once as deduplicated, recovered or
failed, or its recovery still runs, or it was stopped by the context, which no counter
shows; no more recoveries run than there are workers; and what recover counts as multicast,
and as unicast, is at most one for each recovery counted or still running. -/
theorem everyJobAccounted (ran : run (step lib c) (init c b) acts = some s) :
    s.offered = s.books.queueDropped + s.pool.queue.length + s.pool.taken.length ∧
    s.pool.sent = s.pool.taken ++ s.pool.queue ∧
    s.pool.taken.length = s.books.inflightDedup + s.books.recovered + s.books.failed + halted s +
      (running isDone s.pool s.jobs).length ∧
    (running isDone s.pool s.jobs).length ≤ c.cfg.workers.toNat ∧
    (s.pool.cancelled = false → halted s = 0) ∧
    s.books.retransmits ≤ s.books.recovered + (running isDone s.pool s.jobs).length ∧
    s.books.unicasts ≤ s.books.recovered + (running isDone s.pool s.jobs).length := by
  have h := soundReached ran
  refine ⟨?_, h.pool.fifo, h.partition, h.workers ▸ h.pool.runningFew h.tracked, h.stopped, h.sends⟩
  have offered := h.offered
  rw [h.pool.fifo, List.length_append] at offered
  omega

theorem everyJobAccountedPair : ∃ s,
    run (step FrameLib.plain pair) (init pair ExpiringStore.empty) (untilCancel ++ untilGone) = some s ∧
    s.books = ⟨1, 2, 0, 1, 0, 1, 1⟩ ∧ s.offered = 3 ∧
    s.offered = s.books.queueDropped + s.pool.queue.length + s.pool.taken.length := by
  have computed : (run (step FrameLib.plain pair) (init pair ExpiringStore.empty)
      (untilCancel ++ untilGone)).map (fun s => (s.books, s.offered)) = some (⟨1, 2, 0, 1, 0, 1, 1⟩, 3) := by
    decide +kernel
  obtain ⟨s, ran, seen⟩ := Option.map_eq_some_iff.mp computed
  obtain ⟨books, offered⟩ := Prod.ext_iff.mp seen
  exact ⟨s, ran, books, offered, (everyJobAccounted ran).1⟩

end Accounts

section Cancelled
variable {lib : FrameLib} {c : Client} {s t t' : State}

def isAsking : Phase → Bool
  | .asking _ => true
  | _ => false

structure Late (s t : State) (late : List Nat) : Prop where
  told : t.pool.cancelled = true
  asked : t.asked = late ++ s.asked
  once : late.Nodup
  passed : ∀ id ∈ late, ∃ j phase, s.jobs id = some (j, phase) ∧ isAsking phase = true
  before : ∀ id j phase, t.jobs id = some (j, phase) → isAsking phase = true →
    id ∉ late ∧ s.jobs id = some (j, phase)

theorem Late.move {late : List Nat} (h : Late s t late) {id : Nat} {j : Job} {phase' : Phase}
    (moved : t'.jobs = Function.update t.jobs id (some (j, phase'))) (apart : isAsking phase' = false)
    (told : t'.pool.cancelled = true) (asked : t'.asked = t.asked) : Late s t' late := by
  refine ⟨told, asked.trans h.asked, h.once, h.passed, ?_⟩
  intro k j' phase there asking
  rw [moved] at there
  rcases movedCases there with ⟨-, same⟩ | ⟨-, old⟩
  · cases same
    rw [apart] at asking
    cases asking
  · exact h.before k j' phase old asking

theorem stepLate {a : Action c} {late : List Nat} (h : Late s t late) (stepped : step lib c t a = some t') :
    ∃ late', Late s t' late' := by
  cases stepTook stepped with
  | queued | dropped | outside | finish | exit => exact ⟨late, h.told, h.asked, h.once, h.passed, h.before⟩
  | cancel => exact ⟨late, rfl, h.asked, h.once, h.passed, h.before⟩
  | take | counted | claimed | deduped | stopped | exhausted | unreached | heard | missed | stored | multicast
  | unicast | closed => exact ⟨late, h.move rfl rfl h.told rfl⟩
  | looked here low quiet =>
    rw [h.told] at quiet
    cases quiet
  | @asked id a j next here =>
    -- The one step that asks: its recovery was past the check and leaves it for good.
    obtain ⟨fresh, there⟩ := h.before id j _ here rfl
    refine ⟨id :: late, h.told, ?_, List.nodup_cons.mpr ⟨fresh, h.once⟩, ?_, ?_⟩
    · simp only [h.asked, List.cons_append]
    · intro k mem
      rcases List.mem_cons.mp mem with rfl | old
      · exact ⟨j, _, there, rfl⟩
      · exact h.passed k old
    · intro k j' phase now asking
      rcases movedCases now with ⟨-, same⟩ | ⟨apart, old⟩
      · cases same
        cases asking
      · obtain ⟨notLate, same⟩ := h.before k j' phase old asking
        exact ⟨fun mem => (List.mem_cons.mp mem).elim apart notLate, same⟩

theorem lateReached {later : List (Action c)} (told : s.pool.cancelled = true)
    (after : run (step lib c) s later = some t) : ∃ late, Late s t late := by
  have start : ∃ late, Late s s late :=
    ⟨[], told, rfl, List.nodup_nil, nofun, fun id j phase here _ => ⟨List.not_mem_nil, here⟩⟩
  have keeps : ∀ (t : State) (a : Action c) (t' : State), (∃ late, Late s t late) →
      step lib c t a = some t' → ∃ late, Late s t' late := by
    rintro t a t' ⟨late, h⟩ stepped
    exact stepLate h stepped
  exact invariant keeps start after

/-- Once the context is done, the only NACKs the client still sends upstream are those of
recoveries that had passed the check before an attempt by then: one for each of them,
no more than there are workers. A job taken later asks nobody. -/
theorem fewAskedOnceCancelled {b : Backend} {acts later : List (Action c)}
    (ran : run (step lib c) (init c b) acts = some s) (told : s.pool.cancelled = true)
    (after : run (step lib c) s later = some t) :
    ∃ late, t.asked = late ++ s.asked ∧ late.Nodup ∧ late.length ≤ c.cfg.workers.toNat ∧
      ∀ id ∈ late, ∃ j next, s.jobs id = some (j, .asking next) := by
  have h := soundReached ran
  obtain ⟨late, found⟩ := lateReached told after
  have asking : ∀ id ∈ late, ∃ j next, s.jobs id = some (j, .asking next) := by
    intro id mem
    obtain ⟨j, phase, here, asks⟩ := found.passed id mem
    cases phase with
    | asking next => exact ⟨j, next, here⟩
    | _ => cases asks
  refine ⟨late, found.asked, found.once, ?_, asking⟩
  have within : late.Subperm (running isDone s.pool s.jobs) := by
    refine List.subperm_of_subset found.once ?_
    intro id mem
    obtain ⟨j, next, here⟩ := asking id mem
    refine List.mem_filter.mpr ⟨List.mem_range.mpr (h.tracked.low here), ?_⟩
    simp [inCall, here, isDone]
  exact within.length_le.trans (h.workers ▸ h.pool.runningFew h.tracked)

theorem fewAskedOnceCancelledPair : ∃ s t,
    run (step FrameLib.plain pair) (init pair ExpiringStore.empty) untilCancel = some s ∧
    run (step FrameLib.plain pair) s untilGone = some t ∧ s.asked = [0] ∧ t.asked = [1, 0] ∧
    ∃ late, t.asked = late ++ s.asked ∧ late.Nodup ∧ late.length ≤ 2 := by
  have computed : ((run (step FrameLib.plain pair) (init pair ExpiringStore.empty) untilCancel).bind
      (fun s => (run (step FrameLib.plain pair) s untilGone).map
        (fun t => (s.pool.cancelled, s.asked, t.asked)))) = some (true, [0], [1, 0]) := by decide +kernel
  obtain ⟨s, ran, seen⟩ := Option.bind_eq_some_iff.mp computed
  obtain ⟨t, after, seen⟩ := Option.map_eq_some_iff.mp seen
  obtain ⟨told, asked⟩ := Prod.ext_iff.mp seen
  obtain ⟨late, more, once, few, -⟩ := fewAskedOnceCancelled ran told after
  exact ⟨s, t, ran, after, (Prod.ext_iff.mp asked).1, (Prod.ext_iff.mp asked).2, late, more, once, few⟩

end Cancelled

def phaseWork (most : Nat) : Phase → Nat
  | .begun => 3 * most + 6
  | .claiming => 3 * most + 5
  | .trying next => 3 * (most - next) + 4
  | .asking next => 3 * (most - next) + 3
  | .waiting next => 3 * (most - next) + 2
  | .storing _ => 4
  | .multicasting _ => 3
  | .unicasting _ => 2
  | .closing _ => 1
  | .done _ => 0

def work (c : Client) (s : State) : Nat :=
  (3 * endpoints c + 6) * s.pool.queue.length + s.pool.work +
    total (phaseWork (endpoints c)) s.pool.taken.length s.jobs

def isEnqueue {c : Client} : Action c → Bool
  | .enqueue _ => true
  | _ => false

def gain {c : Client} (a : Action c) : Nat := if isEnqueue a then 3 * endpoints c + 8 else 0

section Leaves
variable {lib : FrameLib} {c : Client} {s s' : State}

theorem gainSum (acts : List (Action c)) :
    (acts.map gain).sum = (3 * endpoints c + 8) * acts.countP isEnqueue := by
  induction acts with
  | nil => rfl
  | cons a rest ih =>
    rw [List.map_cons, List.sum_cons, ih, List.countP_cons, gain]
    split <;> simp [Nat.mul_add, Nat.add_comm]

theorem Sound.moveWork (h : Sound c s) {id : Nat} {j : Job} {phase phase' : Phase}
    (here : s.jobs id = some (j, phase))
    (less : phaseWork (endpoints c) phase' < phaseWork (endpoints c) phase) (pool : s'.pool = s.pool)
    (jobs : s'.jobs = Function.update s.jobs id (some (j, phase'))) : work c s' < work c s := by
  have moved := totalMove (phaseWork (endpoints c)) (h.tracked.low here) here phase'
  simp only [work, pool, jobs]
  omega

theorem stepWork {a : Action c} (h : Sound c s) (stepped : step lib c s a = some s') :
    work c s' + (if a.own then 1 else 0) ≤ work c s + gain a := by
  have used : ∀ {s'}, work c s' < work c s → work c s' + (if a.own then 1 else 0) ≤ work c s + gain a := by
    intro s' less
    split <;> omega
  cases stepTook stepped with
  | queued room =>
    simp only [work, Pool.work, gain, isEnqueue, Action.own, if_true, Bool.false_eq_true, if_false,
      List.length_append, List.length_singleton, Nat.mul_add]
    omega
  | dropped | cancel | outside => exact Nat.le_add_right _ _
  | @take i j rest idle next =>
    refine used ?_
    have taken := takeWork idle next
    have added := totalBegin (phaseWork (endpoints c)) s.jobs s.pool.taken.length j .begun
    have begun : phaseWork (endpoints c) .begun = 3 * endpoints c + 6 := rfl
    have queued : (3 * endpoints c + 6) * s.pool.queue.length =
        (3 * endpoints c + 6) * rest.length + (3 * endpoints c + 6) := by
      rw [next, List.length_cons, Nat.mul_succ]
    simp only [work, List.length_append, List.length_singleton, added, queued, begun]
    simp only [Pool.work] at taken ⊢
    omega
  | counted here | claimed here | deduped here | stopped here | exhausted here | looked here | asked here
  | stored here | multicast here | unicast here | closed here =>
    exact used (h.moveWork here (by simp [phaseWork]) rfl rfl)
  -- An attempt is only made while an upstream is left.
  | unreached here =>
    have low := h.inLoop _ _ _ (.inl here)
    exact used (h.moveWork here (by simp only [phaseWork]; omega) rfl rfl)
  | heard here | missed here =>
    have low := h.inLoop _ _ _ (.inr here)
    exact used (h.moveWork here (by simp only [phaseWork]; omega) rfl rfl)
  | finish busy through =>
    have left := finishWork busy
    refine used ?_
    simp only [work]
    simp only [Pool.work] at left ⊢
    omega
  | exit idle told =>
    have left := exitWork idle
    refine used ?_
    simp only [work]
    simp only [Pool.work] at left ⊢
    omega

theorem jobMoves (h : Sound c s) {id : Nat} {j : Job} {phase : Phase} (here : s.jobs id = some (j, phase))
    (still : isDone phase = false) : ∃ a, a.own = true ∧ ∃ s', step lib c s a = some s' := by
  cases phase with
  | begun => exact ⟨.count id, rfl, by simp [step, here]⟩
  | claiming =>
    refine ⟨.claim id .none 0, rfl, ?_⟩
    simp only [step, here]
    split <;> exact ⟨_, rfl⟩
  | trying next =>
    refine ⟨.look id, rfl, ?_⟩
    simp only [step, here]
    split
    · split <;> exact ⟨_, rfl⟩
    · exact ⟨_, rfl⟩
  | asking next =>
    have low := h.inLoop id j next (.inl here)
    have range := c.inRange.2
    have inside : next < c.cfg.upstreams.length := by
      unfold endpoints at low
      omega
    exact ⟨.ask id ⟨false, false, false, []⟩, rfl, by simp [step, here, List.getElem?_eq_getElem inside]⟩
  | waiting next => exact ⟨.hear id [], rfl, by simp [step, here, fetchLoop]⟩
  | storing raw => exact ⟨.store id .none 0, rfl, by simp [step, here]⟩
  | multicasting raw => exact ⟨.multicast id (someEnv c.cfg.retrans), rfl, by simp [step, here]⟩
  | unicasting raw => exact ⟨.unicast id false, rfl, by simp [step, here]⟩
  | closing raw => exact ⟨.close id, rfl, by simp [step, here]⟩
  | done outcome => cases still

theorem clientMoves (h : Sound c s) (told : s.pool.cancelled = true)
    (left : ¬ ∀ hand ∈ s.pool.hands, hand = .gone) :
    ∃ a, a.own = true ∧ ∃ s', step lib c s a = some s' := by
  rcases notGone left told with ⟨i, ticket, busy⟩ | ⟨i, pool, exits⟩
  · obtain ⟨j, phase, here⟩ := h.tracked.call (h.pool.heldTaken (memHeld busy))
    cases phase with
    | done outcome => exact ⟨.finish i ticket, rfl, by simp [step, here, Pool.finish, busy]⟩
    | _ => exact jobMoves h here rfl
  · exact ⟨.exit i, rfl, by simp [step, exits]⟩

theorem goneStill (h : Sound c s) (gone : ∀ hand ∈ s.pool.hands, hand = .gone) {a : Action c}
    (own : a.own = true) : step lib c s a = none := by
  have away : ∀ {i : Nat} {hand : Hand}, s.pool.hands[i]? = some hand → hand ≠ .gone → False := by
    intro i hand here stays
    exact stays (gone hand (List.mem_of_getElem? here))
  have ended : ∀ {id j phase}, s.jobs id = some (j, phase) → isDone phase = false → False := by
    intro id j phase here still
    rw [h.pool.allThrough h.tracked gone here] at still
    cases still
  rw [Option.eq_none_iff_forall_not_mem]
  intro s' stepped
  cases stepTook stepped with
  | queued | dropped | cancel | outside => cases own
  | take idle => exact away idle nofun
  | finish busy => exact away busy nofun
  | exit idle => exact away idle nofun
  | counted here | claimed here | deduped here | stopped here | looked here | exhausted here | asked here
  | unreached here | heard here | missed here | stored here | multicast here | unicast here | closed here =>
    exact ended here rfl

/-- Once the context is done the workers of the client take only so many steps more, a fixed
number for each job still enqueued, and they stand still only when all have left. -/
theorem cancelledClientLeaves {b : Backend} {acts later : List (Action c)} {t : State}
    (ran : run (step lib c) (init c b) acts = some s) (told : s.pool.cancelled = true)
    (after : run (step lib c) s later = some t) :
    later.countP Action.own ≤ work c s + (3 * endpoints c + 8) * later.countP isEnqueue ∧
    ((∀ a, a.own = true → step lib c t a = none) ↔ ∀ hand ∈ t.pool.hands, hand = .gone) := by
  have spends : later.countP Action.own + work c t ≤ work c s + (later.map gain).sum := by
    refine spent ?_ ?_ (soundReached ran) after
    · intro s a s' h stepped
      exact stepSound h stepped
    · intro s a s' h stepped
      exact stepWork h stepped
  rw [gainSum] at spends
  have last := soundReached (runAppend ran after)
  have cancelled : t.pool.cancelled = true := (lateReached told after).elim (fun _ late => late.told)
  refine ⟨by omega, ?_, ?_⟩
  · intro stuck
    by_contra left
    obtain ⟨a, own, t', stepped⟩ : ∃ a, a.own = true ∧ ∃ t', step lib c t a = some t' :=
      clientMoves last cancelled left
    rw [stuck a own] at stepped
    cases stepped
  · intro gone a own
    exact goneStill last gone own

theorem cancelledClientLeavesPair : ∃ s t,
    run (step FrameLib.plain pair) (init pair ExpiringStore.empty) untilCancel = some s ∧
    run (step FrameLib.plain pair) s untilGone = some t ∧ t.pool.hands = [.gone, .gone] ∧
    untilGone.countP Action.own = 11 ∧ 11 ≤ work pair s + 14 * 0 ∧
    ∀ a, a.own = true → step FrameLib.plain pair t a = none := by
  have computed : ((run (step FrameLib.plain pair) (init pair ExpiringStore.empty) untilCancel).bind
      (fun s => (run (step FrameLib.plain pair) s untilGone).map
        (fun t => (s.pool.cancelled, t.pool.hands)))) = some (true, [.gone, .gone]) := by decide +kernel
  obtain ⟨s, ran, seen⟩ := Option.bind_eq_some_iff.mp computed
  obtain ⟨t, after, seen⟩ := Option.map_eq_some_iff.mp seen
  obtain ⟨told, hands⟩ := Prod.ext_iff.mp seen
  obtain ⟨bound, still⟩ := cancelledClientLeaves ran told after
  have gone : ∀ hand ∈ t.pool.hands, hand = .gone := by
    have hands' : t.pool.hands = [.gone, .gone] := hands
    simp [hands']
  exact ⟨s, t, ran, after, hands, rfl, bound, still.mpr gone⟩

end Leaves

def asksLeft (most : Nat) : Phase → Nat
  | .begun | .claiming => most
  | .trying next | .asking next => most - next
  | .waiting next => most - (next + 1)
  | .storing _ | .multicasting _ | .unicasting _ | .closing _ | .done _ => 0

section Asked
variable {lib : FrameLib} {c : Client} {s s' : State}

structure Paid (c : Client) (s : State) : Prop where
  sound : Sound c s
  few : s.asked.length + total (asksLeft (endpoints c)) s.pool.taken.length s.jobs ≤
    endpoints c * s.pool.taken.length

theorem Paid.move (h : Paid c s) {id : Nat} {j : Job} {phase phase' : Phase} (asked : List Nat)
    (here : s.jobs id = some (j, phase)) (less : asked.length + asksLeft (endpoints c) phase' ≤
      s.asked.length + asksLeft (endpoints c) phase) :
    asked.length + total (asksLeft (endpoints c)) s.pool.taken.length
      (Function.update s.jobs id (some (j, phase'))) ≤ endpoints c * s.pool.taken.length := by
  have moved := totalMove (asksLeft (endpoints c)) (h.sound.tracked.low here) here phase'
  have before := h.few
  omega

theorem stepPaid {a : Action c} (h : Paid c s) (stepped : step lib c s a = some s') : Paid c s' := by
  refine ⟨stepSound h.sound stepped, ?_⟩
  cases stepTook stepped with
  | queued | dropped | cancel | outside | finish | exit => exact h.few
  | @take i j rest idle next =>
    have before := h.few
    simp only [List.length_append, List.length_singleton, totalBegin, asksLeft, Nat.mul_succ]
    omega
  | counted here | claimed here | deduped here | stopped here | looked here | exhausted here | unreached here
  | heard here | missed here | stored here | multicast here | unicast here | closed here =>
    refine h.move s.asked here ?_
    simp only [asksLeft]
    omega
  | @asked id a j next here =>
    have low := h.sound.inLoop id j next (.inl here)
    refine h.move _ here ?_
    simp only [asksLeft, List.length_cons]
    omega

end Asked

section Solo
variable (lib : FrameLib) {c : Client} (env : Env c.cfg.retrans) (j : Job)

def isNack : Effect → Bool
  | .nack _ _ => true
  | _ => false

def Ended (s t : State) (id : Nat) (j : Job) (out : List Effect × Backend) : Prop :=
  (∃ outcome, t.jobs id = some (j, .done outcome)) ∧ t.backend = out.2 ∧
    t.asked.length = s.asked.length + out.1.countP isNack

theorem nackCounted (upstream : String) (msg : Bytes) (fx : List Effect) :
    (.nack upstream msg :: fx).countP isNack = fx.countP isNack + 1 := List.countP_cons_of_pos rfl

theorem deliverNacks (raw : Bytes) (b : Backend) :
    (c.cfg.deliver lib env j raw b).1.countP isNack = 0 := by
  rw [List.countP_eq_zero]
  intro e mem nacked
  cases e with
  | nack upstream msg => exact deliverNoNack lib c.cfg env j raw b upstream msg mem
  | _ => cases nacked

def deliverSteps (id : Nat) : List (Action c) :=
  [.store id env.storeFault env.storeNow, .multicast id env, .unicast id env.unicastFails, .close id]

theorem deliverRun {id : Nat} {raw : Bytes} {s : State} (here : s.jobs id = some (j, .storing raw)) :
    ∃ t, run (step lib c) s (deliverSteps env id) = some t ∧ t.jobs id = some (j, .done (.recovered raw)) ∧
      t.backend = (c.cfg.deliver lib env j raw s.backend).2 ∧ t.asked = s.asked := by
  simp [deliverSteps, run, step, here, State.move, Config.deliver]

theorem attemptsRun {id : Nat} (n k : Nat) (s : State) (here : s.jobs id = some (j, .trying k))
    (quiet : s.pool.cancelled = false) (left : k + n = endpoints c) :
    ∃ acts t, run (step lib c) s acts = some t ∧
      Ended s t id j (c.cfg.attempts lib env j s.backend k ((c.cfg.upstreams.drop k).take n)) := by
  induction n generalizing k s with
  | zero =>
    have exhausted : step lib c s (.look id) = some { s.move id j (.done .exhausted) with
        books := { s.books with failed := s.books.failed + 1 } } := by
      have none : ¬ k < endpoints c := by omega
      simp only [step, here, if_neg none]
    exact ⟨[.look id], _, runFirst exhausted rfl, ⟨.exhausted, Function.update_self ..⟩, rfl, rfl⟩
  | succ n ih =>
    have bound := c.inRange.2
    have inside : k < c.cfg.upstreams.length := by
      unfold endpoints at left
      omega
    have low : k < endpoints c := by omega
    have found : c.cfg.upstreams[k]? = some c.cfg.upstreams[k] := List.getElem?_eq_getElem inside
    rw [List.drop_eq_getElem_cons inside, List.take_succ_cons, Config.attempts]
    by_cases cancelled : env.cancelled k = true
    · have stopped : step lib c { s with pool := s.pool.cancel } (.look id) =
          some ({ s with pool := s.pool.cancel }.move id j (.done .stopped)) := by
        simp [step, here, low, Pool.cancel]
      rw [if_pos cancelled]
      exact ⟨[.cancel, .look id], _, runFirst rfl (runFirst stopped rfl), ⟨.stopped, Function.update_self ..⟩,
        rfl, rfl⟩
    rw [if_neg cancelled, fetch]
    have looked : step lib c s (.look id) = some (s.move id j (.asking k)) := by
      simp [step, here, low, quiet]
    have asking : (s.move id j (.asking k)).jobs id = some (j, .asking k) := Function.update_self ..
    cases up : ((env.attempt k).resolves && (env.attempt k).listens && (env.attempt k).sends) with
    | false =>
      have unreached : step lib c (s.move id j (.asking k)) (.ask id (env.attempt k)) =
          some ((s.move id j (.asking k)).move id j (.trying (k + 1))) := by
        simp [step, asking, found, up]
      obtain ⟨acts, t, ran, ended⟩ := ih (k + 1) ((s.move id j (.asking k)).move id j (.trying (k + 1)))
        (Function.update_self ..) quiet (by omega)
      exact ⟨_, t, runFirst looked (runFirst unreached ran), ended⟩
    | true =>
      let w : State := { (s.move id j (.asking k)).move id j (.waiting k) with asked := id :: s.asked }
      have asked : step lib c (s.move id j (.asking k)) (.ask id (env.attempt k)) = some w := by
        simp only [step, asking, found, up, if_true]
        rfl
      have waiting : w.jobs id = some (j, .waiting k) := Function.update_self ..
      cases arrived : fetchLoop (env.attempt k).arrivals with
      | some raw =>
        have heard : step lib c w (.hear id (env.attempt k).arrivals) = some (w.move id j (.storing raw)) := by
          simp only [step, waiting, arrived]
        have storing : (w.move id j (.storing raw)).jobs id = some (j, .storing raw) := Function.update_self ..
        obtain ⟨t, delivered, done, backend, sent⟩ := deliverRun lib env j storing
        refine ⟨.look id :: .ask id (env.attempt k) :: .hear id (env.attempt k).arrivals :: deliverSteps env id, t,
          runFirst looked (runFirst asked (runFirst heard delivered)), ⟨_, done⟩, backend, ?_⟩
        simp only [if_true, List.singleton_append, nackCounted, deliverNacks lib env j raw s.backend, sent, w,
          State.move, List.length_cons]
      | none =>
        have missed : step lib c w (.hear id (env.attempt k).arrivals) = some (w.move id j (.trying (k + 1))) := by
          simp only [step, waiting, arrived]
        obtain ⟨acts, t, ran, ⟨outcome, done⟩, backend, sent⟩ := ih (k + 1)
          (w.move id j (.trying (k + 1))) (Function.update_self ..) quiet (by omega)
        refine ⟨_, t, runFirst looked (runFirst asked (runFirst missed ran)), ⟨outcome, done⟩, backend, ?_⟩
        rw [sent]
        simp only [if_true, List.singleton_append, nackCounted, w, State.move, List.length_cons]
        omega

theorem recoverRun {s : State} {i : Nat} {rest : List Job}
    (idle : s.pool.hands[i]? = some .idle) (next : s.pool.queue = j :: rest)
    (quiet : s.pool.cancelled = false) :
    ∃ acts t, run (step lib c) s acts = some t ∧
      Ended s t s.pool.taken.length j (c.recover lib j env s.backend) := by
  let taken : State := { s with
    pool := { s.pool with
      queue := rest, hands := s.pool.hands.set i (.busy s.pool.taken.length), taken := s.pool.taken ++ [j] }
    jobs := Function.update s.jobs s.pool.taken.length (some (j, .begun)) }
  have took : step lib c s (.take i) = some taken := by
    simp only [step, Pool.take, idle, next, bind, Option.bind_some]
    rfl
  have begun : taken.jobs s.pool.taken.length = some (j, .begun) := Function.update_self ..
  let counted : State := { taken.move s.pool.taken.length j .claiming with
    books := { s.books with requests := s.books.requests + 1 } }
  have counts : step lib c taken (.count s.pool.taken.length) = some counted := by
    simp only [step, begun]
    rfl
  have claiming : counted.jobs s.pool.taken.length = some (j, .claiming) := Function.update_self ..
  cases claimed : c.cfg.claim j s.backend env.claimFault env.claimNow with
  | mk go b =>
    cases go with
    | false =>
      have deduped : ∃ t, step lib c counted (.claim s.pool.taken.length env.claimFault env.claimNow) = some t ∧
          t.jobs s.pool.taken.length = some (j, .done .deduped) ∧ t.backend = b ∧ t.asked = s.asked := by
        have claimed' : c.cfg.claim j counted.backend env.claimFault env.claimNow = (false, b) := claimed
        simp only [step, claiming, claimed']
        exact ⟨_, rfl, Function.update_self .., rfl, rfl⟩
      obtain ⟨t, stepped, done, backend, asked⟩ := deduped
      refine ⟨[.take i, .count s.pool.taken.length, .claim s.pool.taken.length env.claimFault env.claimNow], t,
        runFirst took (runFirst counts (runFirst stepped rfl)), ⟨_, done⟩, ?_, ?_⟩
      · simpa [Client.recover, claimed] using backend
      · simp [Client.recover, claimed, asked]
    | true =>
      have granted : step lib c counted (.claim s.pool.taken.length env.claimFault env.claimNow) =
          some { counted.move s.pool.taken.length j (.trying 0) with backend := b } := by
        have claimed' : c.cfg.claim j counted.backend env.claimFault env.claimNow = (true, b) := claimed
        simp only [step, claiming, claimed']
        rfl
      obtain ⟨acts, t, ran, ended⟩ := attemptsRun lib env j (endpoints c) 0
        { counted.move s.pool.taken.length j (.trying 0) with backend := b } (Function.update_self ..) quiet
        (Nat.zero_add _)
      have out : c.recover lib j env s.backend =
          c.cfg.attempts lib env j b 0 ((c.cfg.upstreams.drop 0).take (endpoints c)) := by
        simp only [Client.recover, claimed, if_true, List.drop_zero, endpoints]
      rw [out]
      exact ⟨_, t, runFirst took (runFirst counts (runFirst granted ran)), ended⟩

end Solo

end RetryEndpoint.ProxyRun
